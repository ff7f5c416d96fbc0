import Yoshino.Library.Runs
import Yoshino.Library.Updates

/-!
# Reading the power statistics

`extract_stats` of power-helper.c reads a statistics file line by line until it has seen as many section
headers as it knows. For each header `parse_stats` reads on in the same file until it has counted as many
parameter lines as the section has parameters, and stores their numbers. Both loops take their lines from
one stream, so a step is what the loop that reads does with the next line. Every line is the C string in
the buffer of `getline`.
-/

namespace Yoshino.PowerHal

open Yoshino.Library

/-- The bytes of a text in the source. -/
def statText (text : String) : List UInt8 := text.toList.map Char.toUInt8

/-- `enum stats_type`, whose platform and WLAN parts both start at zero. -/
inductive StatsType
  | rpmModeXo
  | rpmModeVmin
  | voterApss
  | voterMpss
  | voterAdsp
  | voterSlpi
  | wlanPowerDebugStats
  deriving DecidableEq, Repr

/-- The value of the enumerator. -/
def StatsType.value : StatsType → Nat
  | .rpmModeXo => 0
  | .rpmModeVmin => 1
  | .voterApss => 2
  | .voterMpss => 3
  | .voterAdsp => 4
  | .voterSlpi => 5
  | .wlanPowerDebugStats => 0

/-- `struct stat_pair`. -/
structure StatPair where
  stat : StatsType
  label : List UInt8
  parameters : List (List UInt8)
  deriving DecidableEq, Repr

/-- `rpm_stat_params`. -/
def rpmStatParams : List (List UInt8) := [statText "count", statText "actual last sleep(msec)"]

/-- `master_stat_params`. -/
def masterStatParams : List (List UInt8) := [statText "Accumulated XO duration", statText "XO Count"]

/-- `rpm_stat_map`. -/
def rpmStatMap : List StatPair :=
  [⟨.rpmModeXo, statText "RPM Mode:vlow", rpmStatParams⟩,
    ⟨.rpmModeVmin, statText "RPM Mode:vmin", rpmStatParams⟩,
    ⟨.voterApss, statText "APSS", masterStatParams⟩,
    ⟨.voterMpss, statText "MPSS", masterStatParams⟩,
    ⟨.voterAdsp, statText "ADSP", masterStatParams⟩,
    ⟨.voterSlpi, statText "SLPI", masterStatParams⟩]

/-- `wlan_power_stat_params`. -/
def wlanPowerStatParams : List (List UInt8) :=
  [statText "cumulative_sleep_time_ms", statText "cumulative_total_on_time_ms",
    statText "deep_sleep_enter_counter", statText "last_deep_sleep_enter_tstamp_ms"]

/-- `wlan_stat_map`. -/
def wlanStatMap : List StatPair :=
  [⟨.wlanPowerDebugStats, statText "POWER DEBUG STATS", wlanPowerStatParams⟩]

/-- `MAX_RPM_PARAMS`. -/
def maxRpmParams : Nat := 2

/-- `':'`. -/
def colon : UInt8 := 58

/-- The line after `strspn(line, " \t")` bytes. -/
def afterBlanks (line : List UInt8) : List UInt8 :=
  (line.takeWhile (· ≠ 0)).dropWhile fun c => c == 32 || c == 9

/-- The section whose header the line is: the first with a label at the beginning of the line. -/
def sectionOf (map : List StatPair) (line : List UInt8) : Option StatPair :=
  map.find? fun entry => entry.label.isPrefixOf (afterBlanks line)

/-- The parameter the line is for: the first that is the text before the colon. -/
def parameterOf (params : List (List UInt8)) (line : List UInt8) : Option Nat :=
  if colon ∈ afterBlanks line then
    params.findIdx? (· == (afterBlanks line).takeWhile (· ≠ colon))
  else none

/-- The text after the colon. -/
def valueText (line : List UInt8) : List UInt8 := ((afterBlanks line).dropWhile (· ≠ colon)).tail

/-- The place of a parameter in the list. -/
def StatPair.slot (entry : StatPair) (p : Nat) : Nat := entry.stat.value * maxRpmParams + p

/-- Which loop reads the next line. -/
inductive Reading
  /-- `extract_stats`. -/
  | headers
  /-- `parse_stats` for a section, with `params_read`. -/
  | parameters (entry : StatPair) (paramsRead : Nat)
  /-- None: there was no memory for the line. -/
  | stopped

/-- The list and the local variables. -/
structure Extraction where
  list : Nat → UInt64
  statsRead : Nat
  reading : Reading
  ret : Int32

/-- The loop of `parse_stats` goes on until it has counted enough parameters. -/
def Reading.within (entry : StatPair) (paramsRead : Nat) : Reading :=
  if paramsRead < entry.parameters.length then .parameters entry paramsRead else .headers

section

variable (map : List StatPair) (strtoull : List UInt8 → UInt64) (malloc : Nat → Bool)

/-- What is done with a line; `malloc` says which of the allocations succeed, the first being the one of
`extract_stats`. -/
def Extraction.step (s : Extraction) (line : List UInt8) : Extraction :=
  match s.reading with
  | .stopped => s
  | .parameters entry paramsRead =>
    match parameterOf entry.parameters line with
    | none => s
    | some p =>
      { s with
        list := Function.update s.list (entry.slot p) (strtoull (valueText line))
        reading := .within entry (paramsRead + 1) }
  | .headers =>
    if s.statsRead < map.length then
      match sectionOf map line with
      | none => s
      | some entry =>
        if malloc (s.statsRead + 1) then
          { s with statsRead := s.statsRead + 1, reading := .within entry 0 }
        else { s with statsRead := s.statsRead + 1, reading := .stopped, ret := -12 }
    else s

/-- `extract_stats`: the list afterwards and the result. A file that cannot be opened is an error
number. -/
def extractStats (file : Except Int32 (List (List UInt8))) (list : Nat → UInt64) :
    (Nat → UInt64) × Int32 :=
  match file with
  | .error errno => (list, -errno)
  | .ok lines =>
    if malloc 0 then
      let s := run (Extraction.step map strtoull malloc) ⟨list, 0, .headers, 0⟩ lines
      (s.list, s.ret)
    else (list, -12)

end

end Yoshino.PowerHal
