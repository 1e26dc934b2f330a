import Mathlib.Data.List.DropRight
import Mathlib.Tactic.SplitIfs
import RolePolicy.Json.Printer
import RolePolicy.Json.Reader

/-!
# Printed values are read back

A value without numerals and without unreadable parts is read back from its
print, on one line and on indented lines.  The reader meets a print from its
front, so each lemma allows for a text behind the print: a string is read up to
its closing quote, items and members are read up to their closing bracket, and
the length of a print is fuel enough for reading it.
-/

namespace RolePolicy.Json

/-! ## Characters of strings -/

/-- A character is spelled by a letter, by its code, or by itself. -/
theorem escapeChar_cases (c : Char) :
    (∃ letter, letter ≠ 'u' ∧ escaped? letter = some c ∧
      escapeChar c = ['\\', letter]) ∨
    (c.toNat < 0x20 ∧
      escapeChar c = ['\\', 'u', '0', '0', hexDigit (c.toNat / 16),
        hexDigit (c.toNat % 16)]) ∨
    (c ≠ '"' ∧ c ≠ '\\' ∧ ¬c.toNat < 0x20 ∧ escapeChar c = [c]) := by
  unfold escapeChar
  split_ifs with hquote hback hb hf hn hr ht hcontrol
  · exact Or.inl ⟨'"', by decide, congrArg some hquote.symm, rfl⟩
  · exact Or.inl ⟨'\\', by decide, congrArg some hback.symm, rfl⟩
  · exact Or.inl ⟨'b', by decide, congrArg some hb.symm, rfl⟩
  · exact Or.inl ⟨'f', by decide, congrArg some hf.symm, rfl⟩
  · exact Or.inl ⟨'n', by decide, congrArg some hn.symm, rfl⟩
  · exact Or.inl ⟨'r', by decide, congrArg some hr.symm, rfl⟩
  · exact Or.inl ⟨'t', by decide, congrArg some ht.symm, rfl⟩
  · exact Or.inr (Or.inl ⟨hcontrol, rfl⟩)
  · exact Or.inr (Or.inr ⟨hquote, hback, hcontrol, rfl⟩)

theorem readParts_quote (rest : List Char) :
    readParts ('"' :: rest) = some ([], rest) := by
  rw [readParts]

theorem readParts_letter {letter c : Char} (hletter : letter ≠ 'u')
    (h : escaped? letter = some c) (cs : List Char) :
    readParts ('\\' :: letter :: cs) =
      (readParts cs).map fun (parts, rest) => (.char c :: parts, rest) := by
  rw [readParts]
  · rw [h]
  · intro _ _ _ _ _ hu _
    exact hletter hu

theorem readParts_char {c : Char} (hquote : c ≠ '"') (hback : c ≠ '\\')
    (hcontrol : ¬c.toNat < 0x20) (cs : List Char) :
    readParts (c :: cs) =
      (readParts cs).map fun (parts, rest) => (.char c :: parts, rest) := by
  -- The last equation of the reader asks that no earlier one applies.
  rw [readParts]
  · simp [hcontrol, hback]
  · exact hquote
  · intro _ _ _ _ _ h _
    exact hback h
  · intro _ _ h _
    exact hback h

theorem unit?_code :
    ∀ n < 0x20,
      unit? '0' '0' (hexDigit (n / 16)) (hexDigit (n % 16)) = some n := by
  decide

theorem readParts_code {n : Nat} (h : n < 0x20) (cs : List Char) :
    readParts ('\\' :: 'u' :: '0' :: '0' :: hexDigit (n / 16) ::
        hexDigit (n % 16) :: cs) =
      (readParts cs).map fun (parts, rest) => (.unit n :: parts, rest) := by
  rw [readParts, unit?_code n h]

/-- The code of a control character is no surrogate. -/
theorem spell_code {c : Char} (h : c.toNat < 0x20) (parts : List StringPart) :
    spell (.unit c.toNat :: parts) = (spell parts).map (c :: ·) := by
  have hhigh : isHighSurrogate c.toNat = false := by
    simp only [isHighSurrogate, Bool.and_eq_false_iff, decide_eq_false_iff_not]
    omega
  have hlow : isLowSurrogate c.toNat = false := by
    simp only [isLowSurrogate, Bool.and_eq_false_iff, decide_eq_false_iff_not]
    omega
  rw [spell.eq_def]
  simp only [hhigh, hlow, Bool.false_eq_true, if_false, Char.ofNat_toNat]

/-- The spelling of a character is read as one part, which spells it. -/
theorem exists_readParts_escapeChar (c : Char) (cs : List Char) :
    ∃ part : StringPart,
      readParts (escapeChar c ++ cs) =
        (readParts cs).map (fun (parts, rest) => (part :: parts, rest)) ∧
      ∀ parts, spell (part :: parts) = (spell parts).map (c :: ·) := by
  have hspell : ∀ parts,
      spell (.char c :: parts) = (spell parts).map (c :: ·) := by
    intro parts
    rw [spell]
  rcases escapeChar_cases c with ⟨letter, hletter, hc, hescape⟩ |
    ⟨hcontrol, hescape⟩ | ⟨hquote, hback, hcontrol, hescape⟩
  · rw [hescape]
    exact ⟨.char c, readParts_letter hletter hc cs, hspell⟩
  · rw [hescape]
    exact ⟨.unit c.toNat, readParts_code hcontrol cs, spell_code hcontrol⟩
  · rw [hescape]
    exact ⟨.char c, readParts_char hquote hback hcontrol cs, hspell⟩

/-- A text is read up to the quote behind it, and spells itself. -/
theorem exists_readParts_flatMap (text rest : List Char) :
    ∃ parts, readParts (text.flatMap escapeChar ++ '"' :: rest) =
        some (parts, rest) ∧
      spell parts = some text := by
  induction text with
  | nil => exact ⟨[], readParts_quote rest, rfl⟩
  | cons c text ih =>
      obtain ⟨parts, hparts, hspell⟩ := ih
      obtain ⟨part, hpart, hc⟩ :=
        exists_readParts_escapeChar c (text.flatMap escapeChar ++ '"' :: rest)
      refine ⟨part :: parts, ?_, ?_⟩
      · rw [List.flatMap_cons, List.append_assoc, hpart, hparts]
        rfl
      · rw [hc, hspell]
        rfl

/-! ## Space in front -/

theorem skipSpace_cons {c : Char} (h : isSpace c = false) (cs : List Char) :
    skipSpace (c :: cs) = c :: cs :=
  List.dropWhile_cons_of_neg (by simp [h])

theorem skipSpace_append {space : List Char}
    (h : ∀ c ∈ space, isSpace c = true) (cs : List Char) :
    skipSpace (space ++ cs) = skipSpace cs :=
  List.dropWhile_append_of_pos h

theorem skipSpace_skipSpace (cs : List Char) :
    skipSpace (skipSpace cs) = skipSpace cs :=
  List.dropWhile_idempotent isSpace cs

theorem readValue_skipSpace (fuel : Nat) (cs : List Char) :
    readValue fuel (skipSpace cs) = readValue fuel cs := by
  cases fuel with
  | zero => rw [readValue, readValue]
  | succ fuel => rw [readValue, readValue, skipSpace_skipSpace]

theorem readItems_skipSpace (fuel : Nat) (cs : List Char) :
    readItems fuel (skipSpace cs) = readItems fuel cs := by
  cases fuel with
  | zero => rw [readItems, readItems]
  | succ fuel => rw [readItems, readItems, readValue_skipSpace]

theorem readMembers_skipSpace (fuel : Nat) (cs : List Char) :
    readMembers fuel (skipSpace cs) = readMembers fuel cs := by
  cases fuel with
  | zero => rw [readMembers, readMembers]
  | succ fuel => rw [readMembers, readMembers, readValue_skipSpace]

namespace Layout

theorem isSpace_of_mem_lineBreak (layout : Layout) :
    ∀ c ∈ layout.lineBreak, isSpace c = true := by
  intro c hc
  cases layout with
  | line => cases hc
  | indented level =>
      rcases List.mem_cons.mp hc with rfl | hc
      · rfl
      · rw [(List.mem_replicate.mp hc).2]
        rfl

theorem skipSpace_lineBreak (layout : Layout) (cs : List Char) :
    skipSpace (layout.lineBreak ++ cs) = skipSpace cs :=
  skipSpace_append layout.isSpace_of_mem_lineBreak cs

theorem colon_deeper (layout : Layout) :
    layout.deeper.colon = layout.colon := by
  cases layout <;> rfl

/-- A colon is followed by nothing but space. -/
theorem exists_colon_eq (layout : Layout) :
    ∃ space, layout.colon = ':' :: space ∧ ∀ c ∈ space, isSpace c = true := by
  cases layout with
  | line => exact ⟨[], rfl, by simp⟩
  | indented level => exact ⟨[' '], rfl, by simp [isSpace]⟩

end Layout

theorem readItems_lineBreak (fuel : Nat) (layout : Layout) (cs : List Char) :
    readItems fuel (layout.lineBreak ++ cs) = readItems fuel cs := by
  rw [← readItems_skipSpace, layout.skipSpace_lineBreak, readItems_skipSpace]

theorem readMembers_lineBreak (fuel : Nat) (layout : Layout) (cs : List Char) :
    readMembers fuel (layout.lineBreak ++ cs) = readMembers fuel cs := by
  rw [← readMembers_skipSpace, layout.skipSpace_lineBreak,
    readMembers_skipSpace]

/-! ## Steps of the reader -/

theorem readValue_stringText (fuel : Nat) (text : String) (rest : List Char) :
    readValue (fuel + 1) (stringText text ++ rest) =
      (.string text, some rest) := by
  obtain ⟨parts, hparts, hspell⟩ := exists_readParts_flatMap text.toList rest
  have hskip : skipSpace (stringText text ++ rest) =
      '"' :: (text.toList.flatMap escapeChar ++ '"' :: rest) := by
    rw [stringText, List.cons_append, skipSpace_cons rfl, List.append_assoc]
    rfl
  rw [readValue, hskip]
  simp only [hparts, hspell, String.ofList_toList]

theorem readValue_array {fuel : Nat} {cs : List Char} {items : List Json}
    {out : Option (List Char)} (hopen : ∀ rest, skipSpace cs ≠ ']' :: rest)
    (h : readItems fuel cs = (items, out)) :
    readValue (fuel + 1) ('[' :: cs) = (.array items, out) := by
  rw [readValue, skipSpace_cons rfl]
  simp only [readItems_skipSpace, h]

theorem readValue_members {fuel : Nat} {cs : List Char}
    {pairs : List (Json × Json)} {out : Option (List Char)}
    (hopen : ∀ rest, skipSpace cs ≠ '}' :: rest)
    (h : readMembers fuel cs = (pairs, out)) :
    readValue (fuel + 1) ('{' :: cs) = (.members pairs, out) := by
  rw [readValue, skipSpace_cons rfl]
  simp only [readMembers_skipSpace, h]

section Steps

variable {fuel : Nat} {cs behind rest : List Char} {value : Json}
  {out : Option (List Char)}

theorem readItems_last (hvalue : readValue fuel cs = (value, some behind))
    (hclose : skipSpace behind = ']' :: rest) :
    readItems (fuel + 1) cs = ([value], some rest) := by
  rw [readItems]
  simp only [hvalue, hclose]

theorem readItems_comma {items : List Json}
    (hvalue : readValue fuel cs = (value, some behind))
    (hcomma : skipSpace behind = ',' :: rest)
    (hitems : readItems fuel rest = (items, out)) :
    readItems (fuel + 1) cs = (value :: items, out) := by
  rw [readItems]
  simp only [hvalue, hcomma, hitems]

end Steps

/-! ## Textual values -/

/-- A value without numerals of which all parts could be read. -/
inductive IsTextual : Json → Prop
  | null : IsTextual .null
  | boolean (value : Bool) : IsTextual (.boolean value)
  | string (text : String) : IsTextual (.string text)
  | array {items : List Json} (h : ∀ item ∈ items, IsTextual item) :
      IsTextual (.array items)
  | object {fields : List (String × Json)}
      (h : ∀ field ∈ fields, IsTextual field.2) : IsTextual (object fields)

theorem isTextual_array_map {α : Type} {encode : α → Json}
    (h : ∀ a, IsTextual (encode a)) (l : List α) :
    IsTextual (.array (l.map encode)) := by
  apply IsTextual.array
  intro item hitem
  obtain ⟨a, -, rfl⟩ := List.mem_map.mp hitem
  exact h a

theorem isTextual_ofStrings (texts : List String) :
    IsTextual (ofStrings texts) :=
  isTextual_array_map IsTextual.string texts

theorem isTextual_ofOptional (text : Option String) :
    IsTextual (ofOptional text) := by
  cases text with
  | none => exact IsTextual.null
  | some text => exact IsTextual.string text

/-- The front of a print is no space, and closes nothing. -/
theorem exists_print_eq_cons {value : Json} (h : IsTextual value)
    (layout : Layout) :
    ∃ c cs, print layout value = c :: cs ∧ isSpace c = false ∧ c ≠ ']' := by
  cases h with
  | null => exact ⟨_, _, by rw [print], rfl, by decide⟩
  | boolean value =>
      cases value
      · exact ⟨_, _, by rw [print], rfl, by decide⟩
      · exact ⟨_, _, by rw [print], rfl, by decide⟩
  | string text => exact ⟨_, _, by rw [print, stringText], rfl, by decide⟩
  | @array items _ =>
      cases items
      · exact ⟨_, _, by rw [print], rfl, by decide⟩
      · exact ⟨_, _, by rw [print], rfl, by decide⟩
  | @object fields _ =>
      cases fields
      · exact ⟨_, _, by rw [object, List.map_nil, print], rfl, by decide⟩
      · exact ⟨_, _, by rw [object, List.map_cons, print], rfl, by decide⟩

/-! ## Runs of the reader -/

/-- The value is read back from its print, whatever follows it. -/
def ReadsBack (value : Json) : Prop :=
  ∀ (layout : Layout) (fuel : Nat) (rest : List Char),
    (print layout value).length ≤ fuel →
      readValue fuel (print layout value ++ rest) = (value, some rest)

/-- As no print is empty, there is fuel for a first step. -/
theorem readsBack_of_succ {value : Json} (htextual : IsTextual value)
    (h : ∀ (layout : Layout) (fuel : Nat) (rest : List Char),
      (print layout value).length ≤ fuel + 1 →
        readValue (fuel + 1) (print layout value ++ rest) =
          (value, some rest)) : ReadsBack value := by
  intro layout fuel rest hfuel
  obtain ⟨c, cs, hprint, -, -⟩ := exists_print_eq_cons htextual layout
  cases fuel with
  | zero => simp [hprint] at hfuel
  | succ fuel => exact h layout fuel rest hfuel

theorem readsBack_string (text : String) : ReadsBack (.string text) := by
  apply readsBack_of_succ (.string text)
  intro layout fuel rest _
  rw [print]
  exact readValue_stringText fuel text rest

/-- Items are read up to the bracket behind them. -/
theorem readItems_print {layout close : Layout} {item : Json}
    {items : List Json} (h : ∀ value ∈ item :: items, ReadsBack value)
    {fuel : Nat}
    (hfuel : (print layout item).length + (printItems layout items).length <
      fuel) (rest : List Char) :
    readItems fuel (print layout item ++ (printItems layout items ++
        (close.lineBreak ++ ']' :: rest))) =
      (item :: items, some rest) := by
  induction items generalizing item fuel with
  | nil =>
      obtain ⟨fuel, rfl⟩ := Nat.exists_eq_add_one.mpr (Nat.zero_lt_of_lt hfuel)
      have hitem := h item List.mem_cons_self layout fuel
        (close.lineBreak ++ ']' :: rest) (by omega)
      rw [printItems, List.nil_append]
      apply readItems_last hitem
      rw [close.skipSpace_lineBreak, skipSpace_cons rfl]
  | cons next items ih =>
      -- Each further item costs a step of fuel, which its comma pays for.
      obtain ⟨fuel, rfl⟩ := Nat.exists_eq_add_one.mpr (Nat.zero_lt_of_lt hfuel)
      rw [printItems] at hfuel ⊢
      simp only [List.length_cons, List.length_append] at hfuel
      simp only [List.cons_append, List.append_assoc]
      have hitem := h item List.mem_cons_self layout fuel
      apply readItems_comma (hitem _ (by omega)) (skipSpace_cons rfl _)
      rw [readItems_lineBreak]
      exact ih (fun value hvalue => h value (List.mem_cons_of_mem item hvalue))
        (by omega)

/-- The name of a member is a text, and its value is read back. -/
structure MemberReadsBack (pair : Json × Json) : Prop where
  name : ∃ text, pair.1 = .string text
  value : ReadsBack pair.2

namespace MemberReadsBack

variable {pair : Json × Json} {layout : Layout} {fuel : Nat}

theorem isName (h : MemberReadsBack pair) : pair.1.isName = true := by
  obtain ⟨text, htext⟩ := h.name
  rw [htext]
  rfl

theorem readsBack_name (h : MemberReadsBack pair) : ReadsBack pair.1 := by
  obtain ⟨text, htext⟩ := h.name
  rw [htext]
  exact readsBack_string text

/-- A colon and space lead from the name of a member to its value. -/
theorem exists_readValue (h : MemberReadsBack pair)
    (hfuel : (print layout pair.1).length + (print layout pair.2).length ≤ fuel)
    (behind : List Char) :
    ∃ colon cs,
      readValue fuel (print layout pair.1 ++ (layout.colon ++
        (print layout pair.2 ++ behind))) = (pair.1, some colon) ∧
      skipSpace colon = ':' :: cs ∧
      readValue fuel cs = (pair.2, some behind) := by
  obtain ⟨space, hcolon, hspace⟩ := layout.exists_colon_eq
  refine ⟨_, space ++ (print layout pair.2 ++ behind),
    h.readsBack_name layout fuel _ (by omega), ?_, ?_⟩
  · rw [hcolon, List.cons_append, skipSpace_cons rfl]
  · rw [← readValue_skipSpace, skipSpace_append hspace, readValue_skipSpace]
    exact h.value layout fuel behind (by omega)

theorem readMembers_last (h : MemberReadsBack pair)
    (hfuel : (print layout pair.1).length + (print layout pair.2).length ≤ fuel)
    {behind rest : List Char} (hclose : skipSpace behind = '}' :: rest) :
    readMembers (fuel + 1) (print layout pair.1 ++ (layout.colon ++
        (print layout pair.2 ++ behind))) =
      ([pair], some rest) := by
  obtain ⟨colon, cs, hname, hcolon, hvalue⟩ := h.exists_readValue hfuel behind
  rw [readMembers]
  simp only [hname, h.isName, hcolon, hvalue, hclose]

theorem readMembers_comma (h : MemberReadsBack pair)
    (hfuel : (print layout pair.1).length + (print layout pair.2).length ≤ fuel)
    {behind rest : List Char} (hcomma : skipSpace behind = ',' :: rest)
    {pairs : List (Json × Json)} {out : Option (List Char)}
    (hpairs : readMembers fuel rest = (pairs, out)) :
    readMembers (fuel + 1) (print layout pair.1 ++ (layout.colon ++
        (print layout pair.2 ++ behind))) =
      (pair :: pairs, out) := by
  obtain ⟨colon, cs, hname, hcolon, hvalue⟩ := h.exists_readValue hfuel behind
  rw [readMembers]
  simp only [hname, h.isName, hcolon, hvalue, hcomma, hpairs]

end MemberReadsBack

/-- Members are read up to the bracket behind them. -/
theorem readMembers_print {layout close : Layout} {pair : Json × Json}
    {pairs : List (Json × Json)} (h : ∀ p ∈ pair :: pairs, MemberReadsBack p)
    {fuel : Nat}
    (hfuel : (print layout pair.1).length + (print layout pair.2).length +
      (printMembers layout pairs).length < fuel) (rest : List Char) :
    readMembers fuel (print layout pair.1 ++ (layout.colon ++
        (print layout pair.2 ++ (printMembers layout pairs ++
          (close.lineBreak ++ '}' :: rest))))) =
      (pair :: pairs, some rest) := by
  induction pairs generalizing pair fuel with
  | nil =>
      have hpair := h pair List.mem_cons_self
      obtain ⟨fuel, rfl⟩ := Nat.exists_eq_add_one.mpr (Nat.zero_lt_of_lt hfuel)
      rw [printMembers, List.nil_append]
      apply hpair.readMembers_last (by omega)
      rw [close.skipSpace_lineBreak, skipSpace_cons rfl]
  | cons next pairs ih =>
      have hpair := h pair List.mem_cons_self
      obtain ⟨fuel, rfl⟩ := Nat.exists_eq_add_one.mpr (Nat.zero_lt_of_lt hfuel)
      rw [printMembers] at hfuel ⊢
      simp only [List.length_cons, List.length_append] at hfuel
      simp only [List.cons_append, List.append_assoc]
      apply hpair.readMembers_comma (by omega) (skipSpace_cons rfl _)
      rw [readMembers_lineBreak]
      exact ih (fun p hp => h p (List.mem_cons_of_mem pair hp)) (by omega)

/-! ## Textual values are read back -/

theorem readsBack_array {items : List Json}
    (htextual : ∀ item ∈ items, IsTextual item)
    (h : ∀ item ∈ items, ReadsBack item) : ReadsBack (.array items) := by
  apply readsBack_of_succ (.array htextual)
  intro layout fuel rest hfuel
  cases items with
  | nil =>
      rw [print, readValue]
      rfl
  | cons item items =>
      rw [print] at hfuel ⊢
      simp only [List.length_cons, List.length_append, List.length_nil] at hfuel
      simp only [List.cons_append, List.append_assoc, List.nil_append]
      apply readValue_array
      · intro rest' hopen
        obtain ⟨c, cs, hprint, hspace, hc⟩ :=
          exists_print_eq_cons (htextual item List.mem_cons_self) layout.deeper
        rw [Layout.skipSpace_lineBreak, hprint, List.cons_append,
          skipSpace_cons hspace] at hopen
        exact hc (List.cons.inj hopen).1
      · rw [readItems_lineBreak]
        exact readItems_print h (by omega) rest

theorem readsBack_members {pairs : List (Json × Json)}
    (htextual : IsTextual (.members pairs))
    (h : ∀ pair ∈ pairs, MemberReadsBack pair) :
    ReadsBack (.members pairs) := by
  apply readsBack_of_succ htextual
  intro layout fuel rest hfuel
  cases pairs with
  | nil =>
      rw [print, readValue]
      rfl
  | cons pair pairs =>
      rw [print] at hfuel ⊢
      simp only [List.length_cons, List.length_append, List.length_nil] at hfuel
      simp only [List.cons_append, List.append_assoc, List.nil_append]
      apply readValue_members
      · intro rest' hopen
        obtain ⟨text, htext⟩ := (h pair List.mem_cons_self).name
        rw [Layout.skipSpace_lineBreak, htext, print, stringText,
          List.cons_append, skipSpace_cons rfl] at hopen
        cases hopen
      · rw [readMembers_lineBreak, ← Layout.colon_deeper]
        exact readMembers_print h (by omega) rest

theorem IsTextual.readsBack {value : Json} (h : IsTextual value) :
    ReadsBack value := by
  induction h with
  | null =>
      apply readsBack_of_succ .null
      intro layout fuel rest _
      rw [print, readValue]
      rfl
  | boolean value =>
      apply readsBack_of_succ (.boolean value)
      intro layout fuel rest _
      cases value
      · rw [print, readValue]
        rfl
      · rw [print, readValue]
        rfl
  | string text => exact readsBack_string text
  | array htextual ih => exact readsBack_array htextual ih
  | @object fields htextual ih =>
      apply readsBack_members (.object htextual)
      intro pair hpair
      obtain ⟨field, hfield, rfl⟩ := List.mem_map.mp hpair
      exact ⟨⟨field.1, rfl⟩, ih field hfield⟩

/-- A textual value is read back from its print with space behind it, and nothing
is left. -/
theorem read_print_append {value : Json} (h : IsTextual value) (layout : Layout)
    {space : List Char} (hspace : ∀ c ∈ space, isSpace c = true) :
    read (String.ofList (print layout value ++ space)) = (value, true) := by
  have hvalue := h.readsBack layout
    (2 * (print layout value ++ space).length + 2) space
    (by rw [List.length_append]; omega)
  have hskipped : skipSpace space = [] := by
    rw [← List.append_nil space, skipSpace_append hspace]
    rfl
  unfold read
  simp only [String.toList_ofList, hvalue, hskipped]
  rfl

theorem read_print {value : Json} (h : IsTextual value) (layout : Layout) :
    read (String.ofList (print layout value)) = (value, true) := by
  have hnone : ∀ c ∈ ([] : List Char), isSpace c = true := by simp
  have hread := read_print_append h layout hnone
  rwa [List.append_nil] at hread

end RolePolicy.Json
