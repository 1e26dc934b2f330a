/-!
# Glob patterns

A pattern in which `*` stands for any run of characters, the empty one included, and every other
character stands for itself.  `Glob.Matches` says so by rules; `Glob.accepts` decides it by a single
scan over UTF-8 bytes that remembers only the most recent star.
-/

namespace RolePolicy.Glob

/-- The candidate arises from the pattern by putting some run of characters for each star. -/
inductive Matches : List Char → List Char → Prop where
  | nil : Matches [] []
  | char {c : Char} {p s : List Char} (h : c ≠ '*') : Matches p s → Matches (c :: p) (c :: s)
  | star {p s : List Char} (run : List Char) : Matches p s → Matches ('*' :: p) (run ++ s)

/-- The byte of `*`. -/
def starByte : UInt8 := 0x2A

/-- Scan `s` against `p` where the most recent star is followed by `q` in the pattern and has left
the candidate to match from `t` on.  On a mismatch the star absorbs one byte of `t` more. -/
def scanAfterStar (q t p s : List UInt8) (h : s.length ≤ t.length) : Bool :=
  match s, h with
  | [], _ => p.all (· == starByte)
  | b :: s', h =>
    match p with
    | [] => scanAfterStar q t.tail q t.tail (Nat.le_refl _)
    | c :: p' =>
      if c = starByte then scanAfterStar p' (b :: s') p' (b :: s') (Nat.le_refl _)
      else if c = b then scanAfterStar q t p' s' (Nat.le_trans (Nat.le_succ _) h)
      else scanAfterStar q t.tail q t.tail (Nat.le_refl _)
termination_by (t.length, p.length)
decreasing_by
  · exact Prod.Lex.left _ _ (by simp at h ⊢; omega)
  · rcases Nat.lt_or_eq_of_le h with h | h
    · exact Prod.Lex.left _ _ h
    · rw [← h]; exact Prod.Lex.right _ (Nat.lt_succ_self _)
  · exact Prod.Lex.right _ (Nat.lt_succ_self _)
  · exact Prod.Lex.left _ _ (by simp at h ⊢; omega)

/-- Scan `s` against `p` before any star. -/
def scan : List UInt8 → List UInt8 → Bool
  | p, [] => p.all (· == starByte)
  | [], _ :: _ => false
  | c :: p, b :: s =>
    if c = starByte then scanAfterStar p (b :: s) p (b :: s) (Nat.le_refl _)
    else if c = b then scan p s
    else false

/-- The UTF-8 bytes of a text. -/
def bytes (s : String) : List UInt8 :=
  s.toList.flatMap String.utf8EncodeChar

/-- The pattern matches the whole candidate. -/
def accepts (pattern candidate : String) : Bool :=
  scan (bytes pattern) (bytes candidate)

end RolePolicy.Glob
