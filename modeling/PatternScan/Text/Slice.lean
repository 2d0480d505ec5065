/-!
# Slices of a text by byte offset

A slice names its ends by byte offsets of the encoded text. It exists only when both
ends fall between characters, so no slice ever cuts a character in two.
-/

namespace PatternScan.Text

/-- The number of bytes of the encoded characters. -/
def byteCount : List Char → Nat
  | [] => 0
  | c :: rest => c.utf8Size + byteCount rest

@[simp] theorem byteCount_append (a b : List Char) :
    byteCount (a ++ b) = byteCount a + byteCount b := by
  induction a with
  | nil => simp [byteCount]
  | cons c a ih => simp [byteCount, ih, Nat.add_assoc]

/-- The bytes of a list of characters are those of the text they make up. -/
theorem byteCount_eq_utf8ByteSize (cs : List Char) :
    byteCount cs = (String.ofList cs).utf8ByteSize := by
  induction cs with
  | nil => rfl
  | cons c cs ih =>
      have hsplit : String.ofList (c :: cs) = String.singleton c ++ String.ofList cs := by
        rw [String.singleton_eq_ofList, ← String.ofList_append]
        rfl
      rw [byteCount, ih, hsplit, String.utf8ByteSize_append, String.utf8ByteSize_singleton]

/-- The characters left after exactly `n` bytes, if these end between characters. -/
def dropBytes : Nat → List Char → Option (List Char)
  | 0, cs => some cs
  | _ + 1, [] => none
  | n + 1, c :: cs => if c.utf8Size ≤ n + 1 then dropBytes (n + 1 - c.utf8Size) cs else none

/-- The characters of exactly the first `n` bytes, if these end between characters. -/
def takeBytes : Nat → List Char → Option (List Char)
  | 0, _ => some []
  | _ + 1, [] => none
  | n + 1, c :: cs =>
      if c.utf8Size ≤ n + 1 then (takeBytes (n + 1 - c.utf8Size) cs).map (c :: ·) else none

/-- The characters from byte `start` up to byte `stop`, the latter excluded. -/
def sliceChars (cs : List Char) (start stop : Nat) : Option (List Char) :=
  if start ≤ stop then (dropBytes start cs).bind (takeBytes (stop - start)) else none

/-- The part of the text from byte `start` up to byte `stop`, the latter excluded. -/
def slice (text : String) (start stop : Nat) : Option String :=
  (sliceChars text.toList start stop).map String.ofList

theorem dropBytes_append (a b : List Char) :
    dropBytes (byteCount a) (a ++ b) = some b := by
  induction a with
  | nil => cases b <;> rfl
  | cons c a ih =>
      have hc : 0 < c.utf8Size := Char.utf8Size_pos c
      obtain ⟨n, hn⟩ : ∃ n, byteCount (c :: a) = n + 1 :=
        ⟨byteCount (c :: a) - 1, by simp [byteCount]; omega⟩
      have hsub : n + 1 - c.utf8Size = byteCount a := by
        rw [← hn]; simp [byteCount]
      have hle : c.utf8Size ≤ n + 1 := by rw [← hn]; simp [byteCount]
      rw [hn, List.cons_append, dropBytes, if_pos hle, hsub, ih]

theorem takeBytes_append (a b : List Char) :
    takeBytes (byteCount a) (a ++ b) = some a := by
  induction a with
  | nil => cases b <;> rfl
  | cons c a ih =>
      have hc : 0 < c.utf8Size := Char.utf8Size_pos c
      obtain ⟨n, hn⟩ : ∃ n, byteCount (c :: a) = n + 1 :=
        ⟨byteCount (c :: a) - 1, by simp [byteCount]; omega⟩
      have hsub : n + 1 - c.utf8Size = byteCount a := by
        rw [← hn]; simp [byteCount]
      have hle : c.utf8Size ≤ n + 1 := by rw [← hn]; simp [byteCount]
      rw [hn, List.cons_append, takeBytes, if_pos hle, hsub, ih]
      rfl

theorem eq_append_of_dropBytes {n : Nat} {cs rest : List Char}
    (h : dropBytes n cs = some rest) : ∃ a, cs = a ++ rest ∧ byteCount a = n := by
  fun_induction dropBytes n cs with
  | case1 cs => exact ⟨[], by simpa using h, rfl⟩
  | case2 => simp at h
  | case3 n c cs hle ih =>
      obtain ⟨a, rfl, ha⟩ := ih h
      exact ⟨c :: a, rfl, by simp [byteCount] at ha ⊢; omega⟩
  | case4 => simp at h

theorem eq_append_of_takeBytes {n : Nat} {cs a : List Char}
    (h : takeBytes n cs = some a) : ∃ rest, cs = a ++ rest ∧ byteCount a = n := by
  fun_induction takeBytes n cs generalizing a with
  | case1 cs =>
      obtain rfl : [] = a := by simpa using h
      exact ⟨cs, rfl, rfl⟩
  | case2 => simp at h
  | case3 n c cs hle ih =>
      obtain ⟨b, hb, rfl⟩ := Option.map_eq_some_iff.1 h
      obtain ⟨rest, rfl, hn⟩ := ih hb
      exact ⟨rest, rfl, by simp [byteCount] at hn ⊢; omega⟩
  | case4 => simp at h

/-- A slice is the middle of the text, with as many bytes before and in it as its ends say. -/
theorem sliceChars_eq_some_iff {cs part : List Char} {start stop : Nat} :
    sliceChars cs start stop = some part ↔
      ∃ before after, cs = before ++ part ++ after ∧
        byteCount before = start ∧ byteCount before + byteCount part = stop := by
  constructor
  · intro h
    unfold sliceChars at h
    split at h
    · obtain ⟨rest, hrest, hpart⟩ := Option.bind_eq_some_iff.1 h
      obtain ⟨before, rfl, hbefore⟩ := eq_append_of_dropBytes hrest
      obtain ⟨after, rfl, hlen⟩ := eq_append_of_takeBytes hpart
      exact ⟨before, after, by simp, hbefore, by omega⟩
    · simp at h
  · rintro ⟨before, after, rfl, rfl, rfl⟩
    have hle : byteCount before ≤ byteCount before + byteCount part := by omega
    rw [sliceChars, if_pos hle, List.append_assoc, dropBytes_append]
    simp only [Option.bind_some, Nat.add_sub_cancel_left]
    exact takeBytes_append part after

end PatternScan.Text
