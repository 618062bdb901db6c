import DocLint.Text.Position

/-!
# Slices by byte offset

Offsets count the bytes of the UTF-8 form. A slice exists only if both ends fall between two
characters of the text, in order.

* `dropBytes?_append`, `takeBytes?_append` — a text joined from two parts is cut between them;
* `slice?_append` — so the middle of three parts is the slice between its two offsets;
* `byteSize_of_slice?` — a slice has the bytes that lie between its offsets;
* `prefix_of_slice?` — and it starts where the text before it ends;
* `Position.offset_advance` — reading a text moves the offset by its bytes.
-/

namespace DocLint.Text

/-- The length of a text in bytes. -/
def byteSize (cs : List Char) : Nat := cs.foldr (fun c n => c.utf8Size + n) 0

@[simp] theorem byteSize_nil : byteSize [] = 0 := rfl

@[simp] theorem byteSize_cons (c : Char) (cs : List Char) :
    byteSize (c :: cs) = c.utf8Size + byteSize cs := rfl

theorem byteSize_append (a b : List Char) : byteSize (a ++ b) = byteSize a + byteSize b := by
  induction a with
  | nil => simp
  | cons c cs ih => simp [ih, Nat.add_assoc]

/-- The text after its first `n` bytes, if the cut falls between two characters. -/
def dropBytes? : Nat → List Char → Option (List Char)
  | 0, cs => some cs
  | _ + 1, [] => none
  | n + 1, c :: cs => if c.utf8Size ≤ n + 1 then dropBytes? (n + 1 - c.utf8Size) cs else none

/-- The first `n` bytes of a text, if the cut falls between two characters. -/
def takeBytes? : Nat → List Char → Option (List Char)
  | 0, _ => some []
  | _ + 1, [] => none
  | n + 1, c :: cs =>
    if c.utf8Size ≤ n + 1 then (takeBytes? (n + 1 - c.utf8Size) cs).map (c :: ·) else none

/-- The bytes from `start` up to `stop`, if both cuts fall between characters and are in order. -/
def slice? (cs : List Char) (start stop : Nat) : Option (List Char) :=
  if start ≤ stop then (dropBytes? start cs).bind (takeBytes? (stop - start)) else none

theorem dropBytes?_append (a b : List Char) : dropBytes? (byteSize a) (a ++ b) = some b := by
  induction a with
  | nil => simp [dropBytes?]
  | cons c cs ih =>
    have hc : 0 < c.utf8Size := Char.utf8Size_pos c
    obtain ⟨n, hn⟩ : ∃ n, c.utf8Size + byteSize cs = n + 1 :=
      ⟨c.utf8Size + byteSize cs - 1, by omega⟩
    simp only [byteSize_cons, List.cons_append, hn, dropBytes?]
    rw [if_pos (by omega), show n + 1 - c.utf8Size = byteSize cs by omega, ih]

theorem takeBytes?_append (a b : List Char) : takeBytes? (byteSize a) (a ++ b) = some a := by
  induction a with
  | nil => simp [takeBytes?]
  | cons c cs ih =>
    have hc : 0 < c.utf8Size := Char.utf8Size_pos c
    obtain ⟨n, hn⟩ : ∃ n, c.utf8Size + byteSize cs = n + 1 :=
      ⟨c.utf8Size + byteSize cs - 1, by omega⟩
    simp only [byteSize_cons, List.cons_append, hn, takeBytes?]
    rw [if_pos (by omega), show n + 1 - c.utf8Size = byteSize cs by omega, ih]
    rfl

/-- The middle of three joined parts is the slice between its own offsets. -/
theorem slice?_append (a b c : List Char) :
    slice? (a ++ (b ++ c)) (byteSize a) (byteSize a + byteSize b) = some b := by
  rw [slice?, if_pos (by omega), dropBytes?_append]
  simp [takeBytes?_append]

theorem byteSize_of_takeBytes? {n : Nat} {cs taken : List Char}
    (h : takeBytes? n cs = some taken) : byteSize taken = n := by
  induction cs generalizing n taken with
  | nil =>
    cases n with
    | zero =>
      obtain rfl : [] = taken := Option.some.inj h
      rfl
    | succ n => cases h
  | cons c cs ih =>
    cases n with
    | zero =>
      obtain rfl : [] = taken := Option.some.inj h
      rfl
    | succ n =>
      rw [takeBytes?] at h
      split at h
      · obtain ⟨rest, hrest, rfl⟩ := Option.map_eq_some_iff.1 h
        rw [byteSize_cons, ih hrest]
        omega
      · cases h

theorem prefix_of_takeBytes? {n : Nat} {cs taken : List Char}
    (h : takeBytes? n cs = some taken) : taken <+: cs := by
  induction cs generalizing n taken with
  | nil =>
    cases n with
    | zero =>
      obtain rfl : [] = taken := Option.some.inj h
      exact List.nil_prefix
    | succ n => cases h
  | cons c cs ih =>
    cases n with
    | zero =>
      obtain rfl : [] = taken := Option.some.inj h
      exact List.nil_prefix
    | succ n =>
      rw [takeBytes?] at h
      split at h
      · obtain ⟨rest, hrest, rfl⟩ := Option.map_eq_some_iff.1 h
        exact List.cons_prefix_cons.2 ⟨rfl, ih hrest⟩
      · cases h

/-- A slice is the start of what comes after the text before it. -/
theorem prefix_of_slice? {a b part : List Char} {stop : Nat}
    (h : slice? (a ++ b) (byteSize a) stop = some part) : part <+: b := by
  rw [slice?] at h
  split at h
  · rw [dropBytes?_append] at h
    exact prefix_of_takeBytes? h
  · cases h

/-- A slice has as many bytes as lie between its offsets. -/
theorem byteSize_of_slice? {cs part : List Char} {start stop : Nat}
    (h : slice? cs start stop = some part) : byteSize part = stop - start := by
  rw [slice?] at h
  split at h
  · obtain ⟨rest, -, hpart⟩ := Option.bind_eq_some_iff.1 h
    exact byteSize_of_takeBytes? hpart
  · cases h

end DocLint.Text

namespace DocLint.Position

/-- Reading a text moves the offset by the bytes of the text. -/
theorem offset_advance (p : Position) (cs : List Char) :
    (p.advance cs).offset = p.offset + Text.byteSize cs := by
  induction cs generalizing p with
  | nil => simp
  | cons c cs ih =>
    have hnext : (p.next c).offset = p.offset + c.utf8Size := by
      rw [next]
      split <;> rfl
    rw [advance_cons, ih, hnext, Text.byteSize_cons, Nat.add_assoc]

end DocLint.Position
