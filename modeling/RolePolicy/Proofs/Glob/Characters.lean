import RolePolicy.Proofs.Glob.Scan

/-!
# Matching of bytes is matching of characters

The scan works on UTF-8 bytes, so a star could take a run of bytes that ends
inside a character.  What follows a star in the pattern is either a further
star or begins with the first byte of a character, and such a byte never
stands inside a character.  Hence every way of matching bytes can be moved to
the boundaries of characters.
-/

namespace RolePolicy.Glob

open MatchesBytes

/-! ## The encoding of characters -/

/-- No character's encoding begins another one's. -/
theorem utf8EncodeChar_append_inj {c d : Char} {s t : List UInt8}
    (h : String.utf8EncodeChar c ++ s = String.utf8EncodeChar d ++ t) :
    c = d ∧ s = t := by
  have hcd : c = d := by
    have hc := ByteArray.utf8DecodeChar?_utf8EncodeChar_append
      (b := s.toByteArray) (c := c)
    have hd := ByteArray.utf8DecodeChar?_utf8EncodeChar_append
      (b := t.toByteArray) (c := d)
    rw [← List.toByteArray_append] at hc hd
    rw [h, hd] at hc
    exact (Option.some.inj hc).symm
  subst hcd
  exact ⟨rfl, List.append_cancel_left h⟩

theorem utf8EncodeChar_eq_cons (c : Char) :
    ∃ b s, String.utf8EncodeChar c = b :: s ∧ b.IsUTF8FirstByte ∧
      ∀ b' ∈ s, ¬b'.IsUTF8FirstByte := by
  cases hc : String.utf8EncodeChar c with
  | nil => exact absurd hc String.utf8EncodeChar_ne_nil
  | cons b s =>
      have hfirst : ∀ i, (hi : i < (b :: s).length) →
          ((b :: s)[i].IsUTF8FirstByte ↔ i = 0) := by
        rw [← hc]
        intro i hi
        exact UInt8.isUTF8FirstByte_getElem_utf8EncodeChar
      refine ⟨b, s, rfl, (hfirst 0 (by simp)).mpr rfl, ?_⟩
      intro b' hb'
      obtain ⟨i, hi, rfl⟩ := List.getElem_of_mem hb'
      have hinside := hfirst (i + 1) (by simpa using hi)
      rw [List.getElem_cons_succ] at hinside
      rw [hinside]
      exact Nat.succ_ne_zero i

theorem utf8EncodeChar_star : String.utf8EncodeChar '*' = [starByte] := by
  decide

/-- The byte of a star stands for a star only. -/
theorem starByte_notMem_utf8EncodeChar {c : Char} (hc : c ≠ '*') :
    starByte ∉ String.utf8EncodeChar c := by
  intro hmem
  obtain ⟨b, s, heq, -, hinside⟩ := utf8EncodeChar_eq_cons c
  rw [heq] at hmem
  rcases List.mem_cons.mp hmem with rfl | hmem
  · apply hc
    apply (utf8EncodeChar_append_inj (s := []) (t := s) _).1
    rw [heq, utf8EncodeChar_star, List.append_nil, List.singleton_append]
  · exact hinside _ hmem (by decide)

/-- The bytes of a list of characters. -/
def encode (cs : List Char) : List UInt8 :=
  cs.flatMap String.utf8EncodeChar

@[simp] theorem encode_nil : encode [] = [] := rfl

@[simp] theorem encode_cons (c : Char) (cs : List Char) :
    encode (c :: cs) = String.utf8EncodeChar c ++ encode cs :=
  List.flatMap_cons

@[simp] theorem encode_append (cs ds : List Char) :
    encode (cs ++ ds) = encode cs ++ encode ds :=
  List.flatMap_append

theorem encode_eq_nil_iff {cs : List Char} : encode cs = [] ↔ cs = [] := by
  cases cs with
  | nil => simp
  | cons c cs => simp [String.utf8EncodeChar_ne_nil]

/-- An encoded text that begins like a character begins with it. -/
theorem encode_eq_append {cs : List Char} {c : Char} {t : List UInt8}
    (h : encode cs = String.utf8EncodeChar c ++ t) :
    ∃ ds, cs = c :: ds ∧ encode ds = t := by
  cases cs with
  | nil =>
      have hnil := (List.append_eq_nil_iff.mp h.symm).1
      exact absurd hnil String.utf8EncodeChar_ne_nil
  | cons d cs =>
      rw [encode_cons] at h
      obtain ⟨rfl, rfl⟩ := utf8EncodeChar_append_inj h
      exact ⟨cs, rfl, rfl⟩

/-- Before the first byte of a character stands the boundary of a character. -/
theorem encode_boundary {cs : List Char} {u v : List UInt8} {b : UInt8}
    (hb : b.IsUTF8FirstByte) (h : encode cs = u ++ b :: v) :
    ∃ ds es, cs = ds ++ es ∧ encode es = b :: v := by
  induction cs generalizing u with
  | nil => simp at h
  | cons c cs ih =>
      cases u with
      | nil => exact ⟨[], c :: cs, rfl, h⟩
      | cons b' u =>
          obtain ⟨first, rest, heq, -, hinside⟩ := utf8EncodeChar_eq_cons c
          rw [encode_cons, heq] at h
          have htail : rest ++ encode cs = u ++ b :: v := (List.cons.inj h).2
          rcases List.append_eq_append_iff.mp htail with
            ⟨w, rfl, hw⟩ | ⟨w, rfl, hw⟩
          · obtain ⟨ds, es, rfl, hes⟩ := ih hw
            exact ⟨c :: ds, es, rfl, hes⟩
          · cases w with
            | nil =>
                obtain ⟨ds, es, rfl, hes⟩ := ih (u := []) hw.symm
                exact ⟨c :: ds, es, rfl, hes⟩
            | cons b'' w =>
                have hbb : b = b'' := (List.cons.inj hw).1
                exact absurd hb (hinside b (by simp [hbb]))

/-! ## Moving runs to the boundaries of characters -/

theorem matchesBytes_encode {p s : List Char} (h : Matches p s) :
    MatchesBytes (encode p) (encode s) := by
  induction h with
  | nil => exact MatchesBytes.nil
  | char hc _ ih =>
      rw [encode_cons, encode_cons,
        append_append_iff (starByte_notMem_utf8EncodeChar hc)]
      exact ih
  | star run _ ih =>
      rw [encode_cons, utf8EncodeChar_star, encode_append]
      exact MatchesBytes.star (encode run) ih

/-- A candidate whose bytes match, and a candidate of which some bytes in
front have been left to a star. -/
theorem matches_of_matchesBytes (p : List Char) :
    (∀ s, MatchesBytes (encode p) (encode s) → Matches p s) ∧
      ∀ s u t, encode s = u ++ t → MatchesBytes (encode p) t →
        Matches ('*' :: p) s := by
  induction p with
  | nil =>
      constructor
      · intro s h
        rw [encode_nil, nil_left_iff, encode_eq_nil_iff] at h
        subst h
        exact Matches.nil
      · intro s u t _ _
        have hall := Matches.star s Matches.nil
        rwa [List.append_nil] at hall
  | cons c p ih =>
      obtain ⟨ihwhole, ihrest⟩ := ih
      by_cases hc : c = '*'
      · subst hc
        simp only [encode_cons, utf8EncodeChar_star, List.singleton_append]
        constructor
        · intro s h
          obtain ⟨run, rest, heq, hrest⟩ := star_left_iff.mp h
          exact ihrest s run rest heq hrest
        · intro s u t heq h
          obtain ⟨run, rest, rfl, hrest⟩ := star_left_iff.mp h
          rw [← List.append_assoc] at heq
          exact Matches.star [] (ihrest s (u ++ run) rest heq hrest)
      · have hwhole : ∀ s, MatchesBytes (encode (c :: p)) (encode s) →
            Matches (c :: p) s := by
          intro s h
          rw [encode_cons,
            append_left_iff (starByte_notMem_utf8EncodeChar hc)] at h
          obtain ⟨t, heq, ht⟩ := h
          obtain ⟨ds, rfl, rfl⟩ := encode_eq_append heq
          exact Matches.char hc (ihwhole ds ht)
        refine ⟨hwhole, ?_⟩
        intro s u t heq h
        have hprefix := h
        rw [encode_cons,
          append_left_iff (starByte_notMem_utf8EncodeChar hc)] at hprefix
        obtain ⟨t', rfl, -⟩ := hprefix
        obtain ⟨b, rest, hbytes, hb, -⟩ := utf8EncodeChar_eq_cons c
        rw [hbytes, List.cons_append] at heq h
        obtain ⟨ds, es, rfl, hes⟩ := encode_boundary hb heq
        rw [← hes] at h
        exact Matches.star ds (hwhole es h)

/-- The matcher accepts exactly the candidates that arise from the pattern by
putting runs of characters for its stars. -/
theorem accepts_eq_true_iff {pattern candidate : String} :
    accepts pattern candidate = true ↔
      Matches pattern.toList candidate.toList := by
  unfold accepts
  rw [scan_eq_true_iff]
  constructor
  · intro h
    exact (matches_of_matchesBytes pattern.toList).1 candidate.toList h
  · intro h
    exact matchesBytes_encode h

end RolePolicy.Glob
