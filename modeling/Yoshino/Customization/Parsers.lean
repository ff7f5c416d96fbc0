import Yoshino.Customization.Device

/-!
# The carrier tables

Two XML resources map a SIM to a configuration: `service_providers` lists SIM combinations with
their SIM configuration id, `configuration_selectors` maps that id to a carrier configuration. A
one-line `modem.conf` names the modem variant of a carrier configuration. A pull parser that fails
keeps what it has read so far, so a failing parser is modelled by the value accumulated before it.
-/

namespace Yoshino.Customization

/-- A row of `service_providers`; an element that is missing or empty leaves its field unset. -/
structure SimCombination where
  simConfigId : String
  mcc : Option String := none
  mnc : Option String := none
  serviceProvider : Option String := none
  imsi : Option String := none
  gid1 : Option String := none
  gid2 : Option String := none
  deriving DecidableEq, Repr

/-- `fix` of both parsers. -/
def fix (s : Option String) : String :=
  if isEmpty s then "" else trim (remove (remove (s.getD "") "\n") "\t")

/-- `XmlResourceParser.getAttributeValue(null, name)`. -/
def getAttributeValue (attributes : List (String × String)) (name : String) : Option String :=
  attributes.lookup name

/-- The setters a `service_providers` element selects, tried in the order of the source. -/
def simField (j : JavaText) (tag : String) : Option (SimCombination → String → SimCombination) :=
  if j.equalsIgnoreCase "mcc" tag then some fun c v => { c with mcc := some v }
  else if j.equalsIgnoreCase "mnc" tag then some fun c v => { c with mnc := some v }
  else if j.equalsIgnoreCase "sp" tag then some fun c v => { c with serviceProvider := some v }
  else if j.equalsIgnoreCase "imsi" tag then some fun c v => { c with imsi := some v }
  else if j.equalsIgnoreCase "gid1" tag then some fun c v => { c with gid1 := some v }
  else if j.equalsIgnoreCase "gid2" tag then some fun c v => { c with gid2 := some v }
  else none

/-- The rows after a start tag has been looked at for a new SIM combination; newest first. -/
def openCombination (rows : List SimCombination) (tag : String)
    (attributes : List (String × String)) : List SimCombination :=
  if tag = "service_provider_sim_config" then
    let value := fix (getAttributeValue attributes "sim_config_id")
    if value = "" then rows else { simConfigId := value } :: rows
  else rows

/-- Set a field of the newest row, unless the text is empty. -/
def setField (rows : List SimCombination) (set : SimCombination → String → SimCombination)
    (value : String) : List SimCombination :=
  match rows with
  | [] => []
  | row :: older => if value = "" then row :: older else set row value :: older

/-- The loop of `getServiceProviders`, with its rows newest first. -/
def readServiceProviders (j : JavaText) : List XmlEvent → List SimCombination → List SimCombination
  | [], rows => rows
  | .startTag tag attributes :: rest, rows =>
    let rows := openCombination rows tag attributes
    match rows, simField j tag with
    | row :: older, some set =>
      -- `nextText` wants the text and the end tag, and throws on anything else
      match rest with
      | .text content :: .endTag _ :: rest' =>
        readServiceProviders j rest' (setField (row :: older) set (fix (some content)))
      | .endTag _ :: rest' => readServiceProviders j rest' (row :: older)
      | _ => row :: older
    | rows, _ => readServiceProviders j rest rows
  | _ :: rest, rows => readServiceProviders j rest rows

/-- `ServiceProvidersParser.getServiceProviders`. -/
def getServiceProviders (p : Platform) : List SimCombination :=
  match p.serviceProviders with
  | none => []
  | some events => (readServiceProviders p.java events []).reverse

/-- The carrier configurations by SIM configuration id; the newest binding of a key counts. -/
abbrev ConfigMap := List (String × String)

/-- The loop of `DynamicConfigParser.getConfiguration`. -/
def readConfiguration (j : JavaText) : List XmlEvent → String → ConfigMap → ConfigMap
  | [], _, configuration => configuration
  | .startTag tag attributes :: rest, configId, configuration =>
    let configId :=
      if tag = "configuration" then fix (getAttributeValue attributes "config_id") else configId
    let any (configuration : ConfigMap) : ConfigMap :=
      if j.equalsIgnoreCase "anysim" tag && configId != "" then ("anysim", configId) :: configuration
      else configuration
    let put (value : String) : ConfigMap :=
      if configId = "" then configuration else (value, configId) :: configuration
    if j.equalsIgnoreCase "sim_config_id" tag then
      match rest with
      | .text content :: .endTag _ :: rest' =>
        readConfiguration j rest' configId (any (put (fix (some content))))
      | .endTag _ :: rest' => readConfiguration j rest' configId (any (put ""))
      | _ => configuration
    else readConfiguration j rest configId (any configuration)
  | _ :: rest, configId, configuration => readConfiguration j rest configId configuration

/-- `DynamicConfigParser.getConfiguration`. -/
def getConfiguration (p : Platform) : ConfigMap :=
  match p.configurationSelectors with
  | none => []
  | some events => readConfiguration p.java events "" []

/-- `ModemConfParser.parseModemFileName`. -/
def parseModemFileName (p : Platform) (path : String) : String :=
  match p.confFile path with
  | some (some line) => trim line
  | _ => ""

/-- The directory `modem.conf` files are looked up in. -/
def confDirectory (p : Platform) : String :=
  if p.oemDirectory then "/oem/modem-config" else "/system/etc/customization/modem"

/-- `ModemConfParser.parseModemConf`. -/
def parseModemConf (p : Platform) (conf : String) : String :=
  let path := confDirectory p ++ (if conf = "" then "" else "/" ++ conf) ++ "/modem.conf"
  if (p.confFile path).isNone && conf != "" then
    parseModemFileName p (confDirectory p ++ "/modem.conf")
  else parseModemFileName p path

end Yoshino.Customization
