import Mathlib.Data.List.DropRight
import Yoshino.Properties.Loader

/-!
# What a line of a property file asks for

The grammar of a line in terms of its text, and that the pointer loops of `load_properties` follow
it: they stay inside the buffer, find the pieces of the line the grammar names, and leave everything
after the line as it was.
-/

namespace Yoshino.Properties

open Yoshino.Library

/-- The text without white space at either end. -/
def trim (text : List UInt8) : List UInt8 :=
  (text.dropWhile isspace).rdropWhile isspace

/-- The line imports a file. -/
def isImport (line : List UInt8) : Bool :=
  importKeyword.isPrefixOf (trim line)

/-- What a text names after the keyword. -/
def importArguments (text : List UInt8) : List UInt8 :=
  (text.drop 7).dropWhile isspace

/-- The file a text imports. -/
def importedFile (text : List UInt8) : List UInt8 :=
  (importArguments text).takeWhile (· ≠ space)

/-- The filter a text gives for its import, if there is one. -/
def importFilter (text : List UInt8) : Option (List UInt8) :=
  if space ∈ importArguments text then
    some (((importArguments text).dropWhile (· ≠ space)).tail.dropWhile isspace)
  else none

/-- The text before the first `=`, without white space at its end. -/
def keyPart (text : List UInt8) : List UInt8 :=
  (text.takeWhile (· ≠ equals)).rdropWhile isspace

/-- The text after the first `=`, without white space at its beginning. -/
def valuePart (text : List UInt8) : List UInt8 :=
  (text.dropWhile (· ≠ equals)).tail.dropWhile isspace

/-- The key and the value of a line, if it has them. -/
def keyValue (line : List UInt8) : Option (List UInt8 × List UInt8) :=
  if (trim line).head? ≠ some hash ∧ equals ∈ trim line then
    some (keyPart (trim line), valuePart (trim line))
  else none

/-- The kinds of filters. -/
inductive Filter
  | all
  | exact (key : List UInt8)
  | startsWith (first : List UInt8)
  deriving DecidableEq, Repr

/-- A filter as the loader is given one: the null pointer, or a C string that is not empty. -/
def IsFilter (filter : Option (List UInt8)) : Prop :=
  ∀ text ∈ filter, text ≠ [] ∧ 0 ∉ text

/-- The filter an argument of the loader stands for. The loader would take an empty text for none; it is
never given one. -/
def Filter.ofArgument (filter : Option (List UInt8)) : Filter :=
  match filter with
  | none | some [] => .all
  | some text => if text.getLast? = some star then .startsWith text.dropLast else .exact text

/-- The keys a filter keeps. -/
def Filter.keeps (filter : Filter) (key : List UInt8) : Bool :=
  match filter with
  | .all => true
  | .exact text => key == text
  | .startsWith first => first.isPrefixOf key

/-- The null pointer is a filter. -/
theorem isFilter_none : IsFilter none := by
  simp [IsFilter]

/-- The text of a filter is a C string. -/
theorem IsFilter.nul_not_mem {filter : Option (List UInt8)} (h : IsFilter filter) :
    ∀ text ∈ filter, 0 ∉ text :=
  fun text htext => (h text htext).2

/-- A trimmed text does not end in white space. -/
theorem isspace_getLast_trim {line : List UInt8} {c : UInt8} (h : (trim line).getLast? = some c) :
    isspace c = false := by
  have hne : trim line ≠ [] := by
    rintro hnil
    simp [hnil] at h
  have hlast := List.rdropWhile_last_not isspace (line.dropWhile isspace) hne
  rw [List.getLast?_eq_getLast_of_ne_nil hne] at h
  rw [← Option.some.inj h]
  exact Bool.not_eq_true _ ▸ hlast

/-- A blank inside a trimmed text is followed by something that is not white space. -/
theorem dropWhile_isspace_ne_nil {line first second : List UInt8} (h : trim line = first ++ space :: second) :
    second.dropWhile isspace ≠ [] := by
  intro hblank
  obtain ⟨c, hc⟩ : ∃ c, (space :: second).getLast? = some c := ⟨_, List.getLast?_cons⟩
  have hspace : isspace c = true := by
    rcases List.mem_cons.mp (List.mem_of_getLast? hc) with rfl | hmem
    · rfl
    · exact List.dropWhile_eq_nil_iff.mp hblank c hmem
  have hlast : (trim line).getLast? = some c := by
    rw [h, List.getLast?_append, hc, Option.some_or]
  rw [isspace_getLast_trim hlast] at hspace
  exact absurd hspace (by decide)

/-- The filter of an import line is a filter: since the white space at the end of the line is gone before
the line is cut at a blank, there is a text behind the blank. -/
theorem isFilter_importFilter {line : List UInt8} (hnul : 0 ∉ line) :
    IsFilter (importFilter (trim line)) := by
  intro key hkey
  unfold importFilter at hkey
  split at hkey
  next hspace =>
    obtain ⟨file, second, harguments, hcut⟩ := List.eq_append_cons_of_mem hspace
    obtain rfl := Option.some.inj hkey
    rw [harguments, dropWhile_cut hcut, List.tail_cons]
    obtain ⟨gap, hgap⟩ : importArguments (trim line) <:+ trim line :=
      (List.dropWhile_suffix isspace).trans (List.drop_suffix 7 _)
    rw [harguments, ← List.append_assoc] at hgap
    refine ⟨dropWhile_isspace_ne_nil hgap.symm, fun hmem => hnul ?_⟩
    have htrim : 0 ∈ trim line := by
      rw [← hgap]
      exact List.mem_append_right _ (List.mem_cons_of_mem _ ((List.dropWhile_suffix isspace).subset hmem))
    exact (List.dropWhile_suffix isspace).subset ((List.rdropWhile_prefix isspace _).subset htrim)
  · cases hkey

/-- What a line does. -/
def perform (load : Load) (filter : Option (List UInt8)) (line : List UInt8) :
    Except Stop (List Action) :=
  if isImport line && Filter.ofArgument filter = .all then
    load (importedFile (trim line)) (importFilter (trim line))
  else
    match keyValue line with
    | none => .ok []
    | some (key, value) =>
      .ok (if (Filter.ofArgument filter).keeps key then [.propertySet key value] else [])

@[simp]
theorem checked_some {A : Type} (a : A) : checked (some a) = .ok a := rfl

@[simp]
theorem ok_bind {A B : Type} (a : A) (f : A → Except Stop B) : (Except.ok a >>= f) = f a := rfl

theorem map_eq_ok_iff {A B : Type} {x : Except Stop A} {f : A → B} {b : B} :
    x.map f = .ok b ↔ ∃ a, x = .ok a ∧ f a = b := by
  cases x <;> simp [Except.map]

/-- The empty filter and the null pointer have no length. -/
theorem flen_eq_zero_iff (filter : Option (List UInt8)) :
    flen filter = 0 ↔ Filter.ofArgument filter = .all := by
  rcases filter with _ | _ | ⟨c, text⟩
  · simp [flen, Filter.ofArgument]
  · simp [flen, Filter.ofArgument]
  · unfold Filter.ofArgument
    dsimp only
    split <;> simp [flen]

/-- The filter tests of the loader. -/
theorem passes_append {filter : Option (List UInt8)} (hfilter : ∀ text ∈ filter, 0 ∉ text)
    {key : List UInt8} (hkey : 0 ∉ key) (front back : List UInt8) :
    passes filter (front ++ (key ++ 0 :: back)) front.length =
      .ok ((Filter.ofArgument filter).keeps key) := by
  rcases filter with _ | _ | ⟨c, rest⟩
  · rfl
  · rfl
  · have htext : 0 ∉ c :: rest := hfilter _ rfl
    have hlength : flen (some (c :: rest)) > 0 := by simp [flen]
    unfold passes Filter.ofArgument
    rw [if_pos hlength]
    dsimp only [Option.getD_some]
    split
    · rw [strncmpEq_append hkey htext, checked_some]
      congr 1
      have hdrop : (c :: rest).take (flen (some (c :: rest)) - 1) = (c :: rest).dropLast :=
        (List.dropLast_eq_take).symm
      have hcount : flen (some (c :: rest)) - 1 = ((c :: rest).dropLast).length := by simp [flen]
      rw [hdrop, hcount, Filter.keeps, Bool.eq_iff_iff, decide_eq_true_eq, List.isPrefixOf_iff_prefix,
        List.prefix_iff_eq_take]
      exact eq_comm
    · rw [strcmpEq_append hkey htext, checked_some, Filter.keeps, beq_eq_decide]

/-- The key of a text that is cut at its first `=`. -/
theorem keyPart_cut {first : List UInt8} (h : equals ∉ first) (second : List UInt8) :
    keyPart (first ++ equals :: second) = first.rdropWhile isspace := by
  rw [keyPart, takeWhile_cut h]

/-- Its value. -/
theorem valuePart_cut {first : List UInt8} (h : equals ∉ first) (second : List UInt8) :
    valuePart (first ++ equals :: second) = second.dropWhile isspace := by
  rw [valuePart, dropWhile_cut h, List.tail_cons]

/-- The branch for a property cuts the text at its first `=`, erases the white space before it and
skips that behind it. -/
theorem loadProperty_cut {filter : Option (List UInt8)} (hfilter : ∀ text ∈ filter, 0 ∉ text)
    {first second : List UInt8} (hfirst : 0 ∉ first) (hsecond : 0 ∉ second) (hcut : equals ∉ first)
    (hhead : ∀ c ∈ first.head?, isspace c = false) (front back : List UInt8) :
    ∃ erased, erased.length = first.length + second.length + 2 ∧
      loadProperty filter (front ++ (first ++ equals :: (second ++ 0 :: back))) front.length =
        .ok (front ++ (erased ++ back),
          if (Filter.ofArgument filter).keeps (first.rdropWhile isspace) then
            [.propertySet (first.rdropWhile isspace) (second.dropWhile isspace)]
          else []) := by
  have hkeyNul : 0 ∉ first.rdropWhile isspace := fun hmem =>
    hfirst ((List.rdropWhile_prefix isspace first).subset hmem)
  have hvalueNul : 0 ∉ second.dropWhile isspace := fun hmem =>
    hsecond ((List.dropWhile_suffix isspace).subset hmem)
  have hkeyLength := (List.rdropWhile_prefix isspace first).length_le
  have herase := eraseBack_append hhead front (second ++ 0 :: back)
  generalize first.rdropWhile isspace = key at hkeyNul hkeyLength herase ⊢
  have hzeros : key.length + (List.replicate (first.length - key.length) (0 : UInt8)).length =
      first.length := by
    rw [List.length_replicate]
    omega
  generalize List.replicate (first.length - key.length) (0 : UInt8) = zeros at herase hzeros
  have hbehind : front ++ (key ++ 0 :: (zeros ++ (second ++ 0 :: back))) =
      (front ++ (key ++ 0 :: zeros)) ++ (second ++ 0 :: back) := by simp
  obtain ⟨gap, -, hskipped, hskip⟩ := skipWhile_append_eq (q := isspace) rfl
    (front ++ (key ++ 0 :: zeros)) second back
  have hlength : (front ++ (key ++ 0 :: zeros)).length = front.length + first.length + 1 := by
    simp only [List.length_append, List.length_cons]
    omega
  rw [← hbehind, hlength] at hskip
  rw [← hbehind] at hskipped
  refine ⟨key ++ 0 :: (zeros ++ (second ++ [0])), ?_, ?_⟩
  · simp only [List.length_append, List.length_cons, List.length_nil]
    omega
  · have hcount : front.length + first.length - 1 - front.length = first.length - 1 := by omega
    unfold loadProperty
    rw [strchr_append_cons hfirst hcut, checked_some, ok_bind]
    dsimp only
    rw [store_append, checked_some, ok_bind, hcount, herase, checked_some, ok_bind, hskip,
      checked_some, ok_bind, passes_append hfilter hkeyNul, ok_bind, cString_append hkeyNul]
    rw [hskipped, cString_append hvalueNul, ← hskipped]
    cases (Filter.ofArgument filter).keeps key with
    | false => simp [pure, Except.pure]
    | true => simp [pure, Except.pure]

/-- The branch for a property finds the key and the value of a trimmed text. -/
theorem loadProperty_append {filter : Option (List UInt8)} (hfilter : ∀ text ∈ filter, 0 ∉ text)
    {text : List UInt8} (hnul : 0 ∉ text) (hhead : ∀ c ∈ text.head?, isspace c = false)
    (front back : List UInt8) :
    ∃ erased, erased.length = text.length + 1 ∧
      loadProperty filter (front ++ (text ++ 0 :: back)) front.length =
        .ok (front ++ (erased ++ back),
          if equals ∈ text ∧ (Filter.ofArgument filter).keeps (keyPart text) then
            [.propertySet (keyPart text) (valuePart text)]
          else []) := by
  by_cases hequals : equals ∈ text
  · obtain ⟨first, second, rfl, hcut⟩ := List.eq_append_cons_of_mem hequals
    have hfirstHead : ∀ c ∈ first.head?, isspace c = false := by
      intro c hc
      apply hhead
      cases first with
      | nil => exact absurd hc nofun
      | cons d rest => exact hc
    obtain ⟨erased, herased, hload⟩ := loadProperty_cut hfilter
      (fun hmem => hnul (List.mem_append_left _ hmem))
      (fun hmem => hnul (List.mem_append_right _ (List.mem_cons_of_mem _ hmem))) hcut hfirstHead
      front back
    refine ⟨erased, ?_, ?_⟩
    · rw [herased, List.length_append, List.length_cons]
      omega
    · rw [List.append_assoc, List.cons_append, hload, keyPart_cut hcut, valuePart_cut hcut]
      simp only [hequals, true_and]
  · refine ⟨text ++ [0], by simp, ?_⟩
    unfold loadProperty
    rw [strchr_append_of_not_mem (by decide) hnul hequals, checked_some, ok_bind]
    simp [hequals]
    rfl

/-- An import without a filter loads the whole rest of the text. -/
theorem loadImport_unfiltered (load : Load) {buf file : List UInt8} {key fn : Nat}
    (hskip : skipWhile isspace buf (key + 7) = some fn)
    (hstrchr : strchr buf fn space = some none) (hfile : cString buf fn = some file) :
    loadImport load buf key = (load file none).map fun actions => (buf, actions) := by
  unfold loadImport
  rw [hskip, checked_some, ok_bind, hstrchr, checked_some, ok_bind]
  dsimp only
  rw [hfile, checked_some, ok_bind]
  cases load file none with
  | error stop => rfl
  | ok actions => rfl

/-- An import with a filter is cut at the first blank, and the white space behind it is skipped. -/
theorem loadImport_filtered (load : Load) {key : Nat} {middle file second back : List UInt8}
    (hskip : skipWhile isspace (middle ++ (file ++ space :: (second ++ 0 :: back))) (key + 7) =
      some middle.length)
    (hfile : 0 ∉ file) (hsecond : 0 ∉ second) (hcut : space ∉ file) :
    loadImport load (middle ++ (file ++ space :: (second ++ 0 :: back))) key =
      (load file (some (second.dropWhile isspace))).map fun actions =>
        (middle ++ (file ++ 0 :: (second ++ 0 :: back)), actions) := by
  have hfilterNul : 0 ∉ second.dropWhile isspace := fun hmem =>
    hsecond ((List.dropWhile_suffix isspace).subset hmem)
  have hbehind : middle ++ (file ++ 0 :: (second ++ 0 :: back)) =
      (middle ++ (file ++ [0])) ++ (second ++ 0 :: back) := by simp
  have hlength : (middle ++ (file ++ [0])).length = middle.length + file.length + 1 := by
    simp [Nat.add_assoc]
  obtain ⟨gap, -, hskipped, hfilter⟩ := skipWhile_append_eq (q := isspace) rfl
    (middle ++ (file ++ [0])) second back
  rw [← hbehind, hlength] at hfilter
  rw [← hbehind] at hskipped
  unfold loadImport
  rw [hskip, checked_some, ok_bind, strchr_append_cons hfile hcut, checked_some, ok_bind]
  dsimp only
  rw [store_append, checked_some, ok_bind, hfilter, checked_some, ok_bind, cString_append hfile,
    checked_some, ok_bind, hskipped, cString_append hfilterNul, checked_some, ok_bind]
  cases load file (some (second.dropWhile isspace)) with
  | error stop => rfl
  | ok actions => rfl

/-- The branch for an import finds the file and the filter. -/
theorem loadImport_append (load : Load) {text : List UInt8} (hnul : 0 ∉ text)
    (himport : importKeyword <+: text) (front back : List UInt8) :
    ∃ erased, erased.length = text.length + 1 ∧
      loadImport load (front ++ (text ++ 0 :: back)) front.length =
        (load (importedFile text) (importFilter text)).map fun actions =>
          (front ++ (erased ++ back), actions) := by
  obtain ⟨rest, rfl⟩ := himport
  obtain ⟨gap, hgap, hskipped, hskip⟩ := skipWhile_append_eq (q := isspace) rfl
    (front ++ importKeyword) rest back
  have hbuffer : front ++ ((importKeyword ++ rest) ++ 0 :: back) =
      (front ++ importKeyword) ++ (rest ++ 0 :: back) := by simp
  have hlength : (front ++ importKeyword).length = front.length + 7 := by
    rw [List.length_append]
    rfl
  have harguments : importArguments (importKeyword ++ rest) = rest.dropWhile isspace := rfl
  rw [hlength, hskipped] at hskip
  rw [hbuffer, hskipped, importedFile, importFilter, harguments]
  have hargumentsNul : 0 ∉ rest.dropWhile isspace := fun hmem =>
    hnul (List.mem_append_right _ ((List.dropWhile_suffix isspace).subset hmem))
  have htotal := congrArg List.length hgap
  rw [List.length_append] at htotal
  generalize rest.dropWhile isspace = arguments at *
  by_cases hspace : space ∈ arguments
  · obtain ⟨file, second, rfl, hcut⟩ := List.eq_append_cons_of_mem hspace
    rw [List.append_assoc file, List.cons_append] at hskip ⊢
    refine ⟨importKeyword ++ gap ++ (file ++ 0 :: (second ++ [0])), ?_, ?_⟩
    · simp only [List.length_append, List.length_cons, List.length_nil] at htotal ⊢
      omega
    · rw [loadImport_filtered load hskip (fun hmem => hargumentsNul (List.mem_append_left _ hmem))
        (fun hmem => hargumentsNul (List.mem_append_right _ (List.mem_cons_of_mem _ hmem))) hcut,
        if_pos hspace, takeWhile_cut hcut, dropWhile_cut hcut, List.tail_cons]
      simp only [List.append_assoc, List.cons_append, List.nil_append]
  · refine ⟨importKeyword ++ gap ++ (arguments ++ [0]), ?_, ?_⟩
    · simp only [List.length_append, List.length_cons, List.length_nil]
      omega
    · rw [loadImport_unfiltered load hskip
        (strchr_append_of_not_mem (by decide) hargumentsNul hspace _ _)
        (cString_append hargumentsNul _ _), if_neg hspace, takeWhile_of_not_mem hspace]
      simp only [List.append_assoc, List.cons_append, List.nil_append]

/-- White space is not where a text begins once it has been dropped. -/
theorem isspace_head_dropWhile (line : List UInt8) :
    ∀ c ∈ (line.dropWhile isspace).head?, isspace c = false := by
  intro c hc
  have hnot := List.head?_dropWhile_not isspace line
  rw [Option.mem_def.mp hc] at hnot
  exact hnot

/-- A trimmed line begins like the line after its leading white space. -/
theorem trim_head (line : List UInt8) : (trim line).head? = (line.dropWhile isspace).head? := by
  obtain ⟨rest, hrest⟩ := List.rdropWhile_prefix isspace (line.dropWhile isspace)
  rw [← trim] at hrest
  cases htrim : trim line with
  | nil =>
    have hall := List.rdropWhile_eq_nil_iff.mp htrim
    cases hbody : line.dropWhile isspace with
    | nil => rfl
    | cons c body =>
      have hc : isspace c = false := isspace_head_dropWhile line c (by rw [hbody]; rfl)
      exact absurd (hall c (by rw [hbody]; exact List.mem_cons_self)) (by rw [hc]; nofun)
  | cons c text => rw [← hrest, htrim]; rfl

/-- A comment does nothing. -/
theorem perform_comment (load : Load) (filter : Option (List UInt8)) {line : List UInt8}
    (h : (trim line).head? = some hash) : perform load filter line = .ok [] := by
  have himport : isImport line = false := by
    unfold isImport
    cases htrim : trim line with
    | nil => rfl
    | cons c text =>
      rw [htrim] at h
      have hc : c = hash := by simpa using h
      rw [hc]
      rfl
  have hkeyValue : keyValue line = none := if_neg fun hboth => hboth.1 h
  simp [perform, himport, hkeyValue]

/-- A line that is neither a comment nor an import that is followed sets a property. -/
theorem perform_property (load : Load) (filter : Option (List UInt8)) {line : List UInt8}
    (hcomment : (trim line).head? ≠ some hash)
    (himport : ¬ (isImport line && Filter.ofArgument filter = .all) = true) :
    perform load filter line =
      .ok (if equals ∈ trim line ∧ (Filter.ofArgument filter).keeps (keyPart (trim line)) then
        [.propertySet (keyPart (trim line)) (valuePart (trim line))] else []) := by
  unfold perform
  rw [if_neg himport]
  by_cases hequals : equals ∈ trim line <;> simp [keyValue, hcomment, hequals]

/-- The test for an import. -/
theorem strncmpEq_importKeyword {line : List UInt8} (hnul : 0 ∉ trim line) (front back : List UInt8) :
    strncmpEq (front ++ (trim line ++ 0 :: back)) front.length importKeyword 7 =
      some (isImport line) := by
  rw [strncmpEq_append hnul (by decide)]
  congr 1
  have hlength : importKeyword.length = 7 := rfl
  rw [isImport, Bool.eq_iff_iff, decide_eq_true_eq, List.isPrefixOf_iff_prefix,
    List.prefix_iff_eq_take, ← hlength, List.take_length]
  exact eq_comm

/-- What is left of an iteration once the line is trimmed. -/
theorem loadTrimmed_append (load : Load) {filter : Option (List UInt8)}
    (hfilter : ∀ text ∈ filter, 0 ∉ text) {line : List UInt8} (hnul : 0 ∉ trim line)
    (hcomment : (trim line).head? ≠ some hash) (front back : List UInt8) :
    ∃ erased, erased.length = (trim line).length + 1 ∧
      (do
        let isImport ← checked (strncmpEq (front ++ (trim line ++ 0 :: back)) front.length
          importKeyword 7)
        if isImport && flen filter == 0 then
          loadImport load (front ++ (trim line ++ 0 :: back)) front.length
        else loadProperty filter (front ++ (trim line ++ 0 :: back)) front.length) =
        (perform load filter line).map fun actions => (front ++ (erased ++ back), actions) := by
  have hflen : (flen filter == 0) = decide (Filter.ofArgument filter = .all) := by
    rw [beq_eq_decide, decide_eq_decide]
    exact flen_eq_zero_iff filter
  have hhead : ∀ c ∈ (trim line).head?, isspace c = false := by
    rw [trim_head]
    exact isspace_head_dropWhile line
  rw [strncmpEq_importKeyword hnul, checked_some, ok_bind, hflen]
  by_cases himport : (isImport line && decide (Filter.ofArgument filter = .all)) = true
  · have hkeyword : importKeyword <+: trim line :=
      List.isPrefixOf_iff_prefix.mp (Bool.and_eq_true_iff.mp himport).1
    obtain ⟨erased, herased, hload⟩ := loadImport_append load hnul hkeyword front back
    exact ⟨erased, herased, by rw [if_pos himport, hload, perform, if_pos himport]⟩
  · obtain ⟨erased, herased, hload⟩ := loadProperty_append hfilter hnul hhead front back
    refine ⟨erased, herased, ?_⟩
    rw [if_neg himport, hload, perform_property load filter hcomment himport]
    rfl

/-- One iteration performs the line and keeps what follows it. -/
theorem loadLine_append (load : Load) {filter : Option (List UInt8)}
    (hfilter : ∀ text ∈ filter, 0 ∉ text) {line : List UInt8} (hnul : 0 ∉ line) (d : UInt8)
    (front back : List UInt8) :
    ∃ erased, erased.length = line.length + 1 ∧
      loadLine load filter (front ++ (line ++ d :: back)) front.length (front.length + line.length) =
        (perform load filter line).map fun actions => (front ++ (erased ++ back), actions) := by
  obtain ⟨gap, hgap, hbuffer, hskip⟩ := skipWhile_append_eq (q := isspace) rfl front line back
  have hhead := isspace_head_dropWhile line
  have htrimHead := trim_head line
  have htrim : trim line = (line.dropWhile isspace).rdropWhile isspace := rfl
  have htrimNul : 0 ∉ trim line := fun hmem => hnul ((List.dropWhile_suffix isspace).subset
    ((List.rdropWhile_prefix isspace _).subset hmem))
  have hlength := congrArg List.length hgap
  rw [List.length_append] at hlength
  unfold loadLine
  rw [store_append, checked_some, ok_bind, hskip, checked_some, ok_bind]
  generalize line.dropWhile isspace = body at hhead htrimHead htrim hbuffer hlength
  have hfirst : (front ++ (line ++ 0 :: back))[(front ++ gap).length]? = some (body.headD 0) := by
    rw [hbuffer]
    cases body <;> simp
  have hhash : body.headD 0 = hash ↔ (trim line).head? = some hash := by
    rw [htrimHead]
    cases body with
    | nil => exact iff_of_false (by decide) nofun
    | cons c body => exact Option.some_inj.symm
  rw [hfirst, checked_some, ok_bind]
  by_cases hcomment : (trim line).head? = some hash
  · refine ⟨line ++ [0], by simp, ?_⟩
    rw [if_pos (hhash.mpr hcomment), perform_comment load filter hcomment]
    simp [Except.map, pure, Except.pure]
  · have hcount : front.length + line.length - 1 - (front ++ gap).length = body.length - 1 := by
      rw [List.length_append]
      omega
    have htrimLength : (trim line).length ≤ body.length :=
      htrim ▸ (List.rdropWhile_prefix isspace body).length_le
    obtain ⟨erased, herased, hload⟩ := loadTrimmed_append load hfilter htrimNul hcomment
      (front ++ gap) (List.replicate (body.length - (trim line).length) 0 ++ back)
    refine ⟨gap ++ erased ++ List.replicate (body.length - (trim line).length) 0, ?_, ?_⟩
    · simp only [List.length_append, List.length_replicate]
      omega
    · rw [if_neg (mt hhash.mp hcomment), hcount, hbuffer, eraseBack_append hhead, checked_some,
        ok_bind, ← htrim, hload]
      simp only [List.append_assoc]

end Yoshino.Properties
