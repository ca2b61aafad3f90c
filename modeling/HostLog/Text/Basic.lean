/-!
# Characters and texts

What other modules ask of characters and texts. A property of characters may be a table of ranges of
code points (`inRanges`). `isBlank` is the property of those that count as white space, 25 of them
and not only the ASCII ones; `trim` removes them from both ends of a text and nowhere else. Places
in a text may be counted in the bytes that it takes in UTF-8: `cut?` is the part between two of
them, and fails where one is inside a character or beyond the end.
-/

namespace HostLog.Text

/-- Whether `n` lies in one of the inclusive ranges. -/
def inRanges (ranges : List (Nat × Nat)) (n : Nat) : Bool :=
  ranges.any fun r => r.1 ≤ n && n ≤ r.2

/-! ### White space at the ends -/

/-- White space: the ASCII blanks and line breaks, U+0085, and every Unicode space and line or
paragraph separator. Joiners and zero-width marks are not white space. -/
def isBlank (c : Char) : Bool :=
  let n := c.toNat
  (0x9 ≤ n && n ≤ 0xD) || n == 0x20 || n == 0x85 || n == 0xA0 || n == 0x1680 ||
    (0x2000 ≤ n && n ≤ 0x200A) || n == 0x2028 || n == 0x2029 || n == 0x202F || n == 0x205F ||
    n == 0x3000

/-- `s` without the white space at its ends. -/
def trim (s : List Char) : List Char :=
  ((s.dropWhile isBlank).reverse.dropWhile isBlank).reverse

/-! ### Places counted in bytes -/

/-- Bytes that `s` takes in UTF-8. -/
def byteCount (s : List Char) : Nat := s.foldr (fun c n => c.utf8Size + n) 0

/-- `s` after its first `n` bytes, if a character begins or the text ends there. -/
def dropBytes? : Nat → List Char → Option (List Char)
  | 0, s => some s
  | _ + 1, [] => none
  | n + 1, c :: s => if c.utf8Size ≤ n + 1 then dropBytes? (n + 1 - c.utf8Size) s else none

/-- The first `n` bytes of `s`, if a character or the text ends there. -/
def takeBytes? : Nat → List Char → Option (List Char)
  | 0, _ => some []
  | _ + 1, [] => none
  | n + 1, c :: s =>
    if c.utf8Size ≤ n + 1 then (takeBytes? (n + 1 - c.utf8Size) s).map (c :: ·) else none

/-- What stands in `s` between the byte offsets `a` and `b`. -/
def cut? (s : List Char) (a b : Nat) : Option (List Char) :=
  (dropBytes? a s).bind (takeBytes? (b - a))

@[simp]
theorem byteCount_nil : byteCount [] = 0 := rfl

theorem byteCount_cons (c : Char) (s : List Char) :
    byteCount (c :: s) = c.utf8Size + byteCount s := rfl

theorem byteCount_append (s t : List Char) : byteCount (s ++ t) = byteCount s + byteCount t := by
  induction s with
  | nil => rw [List.nil_append, byteCount_nil, Nat.zero_add]
  | cons c s ih => rw [List.cons_append, byteCount_cons, byteCount_cons, ih, Nat.add_assoc]

theorem dropBytes?_append (s t : List Char) : dropBytes? (byteCount s) (s ++ t) = some t := by
  induction s with
  | nil => cases t <;> rfl
  | cons c s ih =>
    obtain ⟨n, hn⟩ := Nat.exists_eq_add_of_le (Char.utf8Size_pos c)
    have hb : byteCount (c :: s) = n + byteCount s + 1 := by rw [byteCount_cons]; omega
    have hrest : n + byteCount s + 1 - c.utf8Size = byteCount s := by omega
    rw [hb, List.cons_append, dropBytes?, if_pos (by omega), hrest, ih]

theorem takeBytes?_append (s t : List Char) : takeBytes? (byteCount s) (s ++ t) = some s := by
  induction s with
  | nil => cases t <;> rfl
  | cons c s ih =>
    obtain ⟨n, hn⟩ := Nat.exists_eq_add_of_le (Char.utf8Size_pos c)
    have hb : byteCount (c :: s) = n + byteCount s + 1 := by rw [byteCount_cons]; omega
    have hrest : n + byteCount s + 1 - c.utf8Size = byteCount s := by omega
    rw [hb, List.cons_append, takeBytes?, if_pos (by omega), hrest, ih]
    rfl

theorem cut?_append (s t u : List Char) :
    cut? (s ++ (t ++ u)) (byteCount s) (byteCount s + byteCount t) = some t := by
  rw [cut?, dropBytes?_append, Option.bind_some, Nat.add_sub_cancel_left, takeBytes?_append]

end HostLog.Text
