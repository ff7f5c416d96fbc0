import Yoshino.Customization.Parsers

/-!
# From the SIM to the carrier bundle

`SimConfigId` scores every SIM combination against the SIM of the default subscription and keeps
the best id; `CommonUtil.getCarrierBundle` turns that id into a carrier configuration and a modem
variant. An exception on the way, a malformed pattern or a too short operator code, is `none`.
-/

namespace Yoshino.Customization

/-- `CommonUtil.getDefaultSubId`. -/
def getDefaultSubId (t : Telephony) : Int :=
  if t.isUsableSubIdValue t.defaultDataSubscriptionId then t.defaultDataSubscriptionId
  else ((t.activeSubscriptions.getD []).find? t.isUsableSubIdValue).getD t.defaultDataSubscriptionId

/-- `CommonUtil.isDefaultDataSlot`. -/
def isDefaultDataSlot (t : Telephony) (subId : Int) : Bool :=
  getDefaultSubId t == subId

/-- `CommonUtil.isDualSim`. -/
def isDualSim (t : Telephony) : Bool :=
  t.available && decide (1 < t.phoneCount)

/-- `CommonUtil.isMandatorySimParamsAvailable`. -/
def isMandatorySimParamsAvailable (t : Telephony) (subId : Int) : Bool :=
  t.available && !isEmpty (t.sim subId).simOperator && !isEmpty (t.sim subId).subscriberId &&
    !isEmpty (t.sim subId).simSerialNumber

/-- `CommonUtil.isSIMLoaded`. -/
def isSIMLoaded (t : Telephony) (subId : Int) : Bool :=
  t.available && subId != invalidId && t.slotIndex subId != invalidId &&
    t.simState (t.slotIndex subId) == .ready && !isEmpty (t.sim subId).subscriberId &&
    !isEmpty (t.sim subId).simOperator && decide (5 ≤ utf16Length ((t.sim subId).simOperator.getD ""))

/-- `Configurator.getIccid`. -/
def getIccid (t : Telephony) : String :=
  if !t.available || getDefaultSubId t == invalidId then ""
  else (t.sim (getDefaultSubId t)).simSerialNumber.getD ""

/-- The parameters of a SIM by their names in the map `extractSimInfo` fills. -/
structure SimInfo where
  mcc : Option String := none
  mnc : Option String := none
  sp : Option String := none
  imsi : Option String := none
  gid1 : Option String := none
  iccid : Option String := none
  subscription : Option String := none
  deriving DecidableEq, Repr

/-- `SimConfigId.extractSimInfo`: `none` is the exception of `substring`. Codes that `substring` cuts
out of the middle of a character equal no text of a combination, as unset ones do. -/
def extractSimInfo (t : Telephony) (subId : Int) : Option SimInfo :=
  let sim := t.sim subId
  if isEmpty sim.simOperator || isEmpty sim.subscriberId then some {}
  else
    let operator := sim.simOperator.getD ""
    if utf16Length operator < 3 then none
    else some {
      mcc := (utf16Cut 3 operator.toList).map fun halves => .ofList halves.1
      mnc := (utf16Cut 3 operator.toList).map fun halves => .ofList halves.2
      sp := some (trim (.ofList ((sim.simOperatorName.getD "").toList.filter
        fun c => c != '\n' && c != '\r')))
      imsi := some (sim.subscriberId.getD "")
      gid1 := some (sim.groupIdLevel1.getD "")
      iccid := some (sim.simSerialNumber.getD "")
      subscription := some (toString subId) }

/-- `SimConfigId.matchOnImsi`. -/
def matchOnImsi (j : JavaText) (pattern : String) (s : Option String) : Option Bool :=
  match s with
  | none => some false
  | some s => j.regexMatches pattern s

/-- `SimConfigId.matchOnSP`. -/
def matchOnSP (j : JavaText) (pattern : String) (s : Option String) : Option Bool :=
  if j.equalsIgnoreCase "null" pattern then some (isEmpty s || s.any (j.equalsIgnoreCase "null"))
  else
    match s with
    | none => some false
    | some s => j.regexMatches pattern s

/-- The comparison of the group identifiers in `getMappingMatch`. -/
def matchOnGid1 (j : JavaText) (pattern : String) (s : Option String) : Bool :=
  s.any fun s => startsWith (j.toLowerCase s) (j.toLowerCase pattern)

/-- `true` counts for a combination, `false` against it, an unset field does neither. -/
def fieldScore (field : Option String) (test : String → Option Bool) : Option Int :=
  match field with
  | none => some 0
  | some pattern => (test pattern).map fun matched => if matched then 1 else -1

/-- The combination is for the network of the SIM. -/
def sameNetwork (sim : SimInfo) (combo : SimCombination) : Bool :=
  combo.mcc.isSome && combo.mcc == sim.mcc && combo.mnc.isSome && combo.mnc == sim.mnc

/-- The matches one combination has with the SIM. -/
def matchCount (j : JavaText) (sim : SimInfo) (combo : SimCombination) : Option Int :=
  if sameNetwork sim combo then do
    let sp ← fieldScore combo.serviceProvider fun pattern => matchOnSP j pattern sim.sp
    let imsi ← fieldScore combo.imsi fun pattern => matchOnImsi j pattern sim.imsi
    let gid1 ← fieldScore combo.gid1 fun pattern => some (matchOnGid1 j pattern sim.gid1)
    return 1 + sp + imsi + gid1
  else some 0

/-- The loop of `getMappingMatch`: a combination replaces the best one only with more matches. -/
def bestMatch (j : JavaText) (sim : SimInfo) :
    List SimCombination → Option String → Int → Option (Option String)
  | [], best, _ => some best
  | combo :: rest, best, numberOfMatches =>
    match matchCount j sim combo with
    | none => none
    | some count =>
      if numberOfMatches < count then bestMatch j sim rest (some combo.simConfigId) count
      else bestMatch j sim rest best numberOfMatches

/-- `SimConfigId.getMappingMatch`. -/
def getMappingMatch (j : JavaText) (combos : List SimCombination) (sim : SimInfo) :
    Option (Option String) :=
  bestMatch j sim combos none 0

/-- `SimConfigId.getId`. -/
def getId (p : Platform) (t : Telephony) : Option (Option String) :=
  if t.available && getDefaultSubId t != invalidId then
    (extractSimInfo t (getDefaultSubId t)).bind fun sim =>
      getMappingMatch p.java (getServiceProviders p) sim
  else some (some "")

/-- `CommonUtil.isIMSEnabledBySetting`. -/
def isIMSEnabledBySetting (d : Device) : Bool :=
  d.csIms.getD 1 == 1

/-- The bundle a configurator is built from. -/
structure Bundle where
  simId : Option String
  modem : String
  configId : String
  deriving DecidableEq, Repr

/-- The carrier configuration of a SIM configuration id. -/
def carrierConfigId (p : Platform) (simId : Option String) : String :=
  let configuration := getConfiguration p
  let own := simId.bind fun id => configuration.lookup id
  let configId := if isEmpty own then configuration.lookup "anysim" else own
  match configId with
  | none => ""
  | some id => if p.java.equalsIgnoreCase "default" id then "" else id

/-- `CommonUtil.getCarrierBundle`. -/
def getCarrierBundle (d : Device) : Option Bundle :=
  (getId d.platform d.telephony).map fun simId =>
    let configId := carrierConfigId d.platform simId
    let modem := parseModemConf d.platform configId
    { simId
      modem := if modem = "" && isIMSEnabledBySetting d then "ir51_ir92_ims" else modem
      configId }

/-- `CommonUtil.getDefaultModems`. -/
def getDefaultModems : List String :=
  ["amss_fsg_lilac_tar.mbn", "amss_fsg_poplar_tar.mbn", "amss_fsg_poplar_dsds_tar.mbn",
    "amss_fsg_maple_tar.mbn", "amss_fsg_maple_dsds_tar.mbn"]

/-- `CommonUtil.isModemDefault`. -/
def isModemDefault (modem : String) : Bool :=
  getDefaultModems.contains modem ||
    (!contains modem "ims" && !contains modem "volte" && !contains modem "vilte" &&
      !contains modem "vowifi")

end Yoshino.Customization
