import Gloss.Text.Offset

/-!
# Texts with strings put in

Byte lengths of texts, and `insertAt`, which puts strings into a text at byte
offsets and keeps all its characters: taking the strings out again gives the text
back (`deleteAt_insertAt`). Strings can be put in one after the other from the last
offset to the first (`insertAt_cons`).
-/

namespace Gloss.Text

/-! ## Byte lengths -/

@[simp] theorem byteLength_nil : byteLength [] = 0 := rfl

@[simp] theorem byteLength_cons (c : Char) (cs : List Char) :
    byteLength (c :: cs) = c.utf8Size + byteLength cs := rfl

@[simp] theorem byteLength_append (a b : List Char) :
    byteLength (a ++ b) = byteLength a + byteLength b := by
  induction a with
  | nil => simp
  | cons c cs ih => simp [ih, Nat.add_assoc]

theorem byteLength_pos {cs : List Char} (h : cs ≠ []) : 0 < byteLength cs := by
  obtain ⟨c, cs, rfl⟩ := List.exists_cons_of_ne_nil h
  have := c.utf8Size_pos
  rw [byteLength_cons]
  omega

theorem byteLength_le_of_isPrefix {a b : List Char} (h : a <+: b) : byteLength a ≤ byteLength b := by
  obtain ⟨c, rfl⟩ := h
  rw [byteLength_append]
  omega

/-- Of two beginnings of a text, the one that takes fewer bytes is a beginning of the
other. -/
theorem append_split {a b c d : List Char} (h : a ++ b = c ++ d)
    (hle : byteLength a ≤ byteLength c) : ∃ e, c = a ++ e ∧ b = e ++ d := by
  rcases List.append_eq_append_iff.1 h with hsplit | ⟨e, rfl, rfl⟩
  · exact hsplit
  · have he : e = [] := Decidable.byContradiction fun hne => by
      have := byteLength_pos hne
      rw [byteLength_append] at hle
      omega
    subst he
    exact ⟨[], by simp, rfl⟩

theorem append_inj {a b c d : List Char} (h : a ++ b = c ++ d)
    (heq : byteLength a = byteLength c) : a = c ∧ b = d := by
  obtain ⟨e, rfl, rfl⟩ := append_split h (Nat.le_of_eq heq)
  have he : e = [] := Decidable.byContradiction fun hne => by
    have := byteLength_pos hne
    rw [byteLength_append] at heq
    omega
  simp [he]

theorem slice_append (a b c : List Char) :
    slice (byteLength a) (byteLength (a ++ b)) (a ++ (b ++ c)) = some b := by
  rw [slice, if_pos (by simp), cut_byteLength_append, Option.bind_some, byteLength_append,
    Nat.add_sub_cancel_left]
  show (cut (byteLength b) (b ++ c)).map _ = some b
  rw [cut_byteLength_append]
  rfl

/-! ## Insertions -/

/-- The strings for one offset. -/
def stringsAt (inserts : List (Nat × List Char)) (pos : Nat) : List Char :=
  (inserts.filter (·.1 == pos)).flatMap (·.2)

/-- A text that starts at `pos`, with strings put in at their offsets. -/
def insertAt (inserts : List (Nat × List Char)) (pos : Nat) : List Char → List Char
  | [] => stringsAt inserts pos
  | c :: cs => stringsAt inserts pos ++ c :: insertAt inserts (pos + c.utf8Size) cs

/-- The rest of a text without the strings that were put in: `skip` characters of the
string for `pos` are left. -/
def deleteFrom (inserts : List (Nat × List Char)) (pos skip : Nat) : List Char → List Char
  | [] => []
  | c :: cs =>
    if skip = 0 then
      c :: deleteFrom inserts (pos + c.utf8Size) (stringsAt inserts (pos + c.utf8Size)).length cs
    else deleteFrom inserts pos (skip - 1) cs

/-- A text without the strings that were put in from `pos` on. -/
def deleteAt (inserts : List (Nat × List Char)) (pos : Nat) (cs : List Char) : List Char :=
  deleteFrom inserts pos (stringsAt inserts pos).length cs

theorem deleteFrom_append (inserts : List (Nat × List Char)) (pos : Nat) (string cs : List Char) :
    deleteFrom inserts pos string.length (string ++ cs) = deleteFrom inserts pos 0 cs := by
  induction string with
  | nil => rfl
  | cons c string ih =>
    rw [List.cons_append, List.length_cons, deleteFrom, if_neg (Nat.succ_ne_zero _),
      Nat.add_sub_cancel, ih]

theorem deleteAt_insertAt (inserts : List (Nat × List Char)) (pos : Nat) (cs : List Char) :
    deleteAt inserts pos (insertAt inserts pos cs) = cs := by
  induction cs generalizing pos with
  | nil =>
    have hdelete := deleteFrom_append inserts pos (stringsAt inserts pos) []
    rwa [List.append_nil] at hdelete
  | cons c cs ih =>
    rw [insertAt, deleteAt, deleteFrom_append, deleteFrom, if_pos rfl]
    exact congrArg (c :: ·) (ih (pos + c.utf8Size))

variable {inserts inserts' : List (Nat × List Char)} {pos n : Nat}

theorem stringsAt_of_ne (h : ∀ p ∈ inserts, p.1 ≠ pos) : stringsAt inserts pos = [] := by
  have hnone : inserts.filter (·.1 == pos) = [] :=
    List.filter_eq_nil_iff.2 fun p hp => by simpa using h p hp
  rw [stringsAt, hnone]
  rfl

@[simp] theorem insertAt_nil (pos : Nat) (cs : List Char) : insertAt [] pos cs = cs := by
  induction cs generalizing pos with
  | nil => rfl
  | cons c cs ih => simp [insertAt, stringsAt, ih]

theorem length_le_insertAt (inserts : List (Nat × List Char)) (pos : Nat) (cs : List Char) :
    cs.length + (stringsAt inserts pos).length ≤ (insertAt inserts pos cs).length := by
  induction cs generalizing pos with
  | nil => simp [insertAt]
  | cons c cs ih =>
    have hrest := ih (pos + c.utf8Size)
    simp only [insertAt, List.length_append, List.length_cons]
    omega

/-- What is put in at an offset inside the text makes it longer. -/
theorem length_lt_insertAt {i : Nat × List Char} (hi : i ∈ inserts) (hne : i.2 ≠ [])
    (a b : List Char) (hpos : i.1 = pos + byteLength a) :
    (a ++ b).length < (insertAt inserts pos (a ++ b)).length := by
  induction a generalizing pos with
  | nil =>
    have hmem : i ∈ inserts.filter (·.1 == pos) := List.mem_filter.2 ⟨hi, by simpa using hpos⟩
    have hstrings : stringsAt inserts pos ≠ [] := fun hnil =>
      hne (List.flatMap_eq_nil_iff.1 hnil i hmem)
    have hlength := length_le_insertAt inserts pos b
    have hpositive := List.length_pos_iff.2 hstrings
    rw [List.nil_append]
    omega
  | cons c a ih =>
    have hpos' : i.1 = pos + c.utf8Size + byteLength a := by
      rw [hpos, byteLength_cons, Nat.add_assoc]
    have hrest := ih hpos'
    simp only [List.cons_append, insertAt, List.length_append, List.length_cons] at hrest ⊢
    omega

/-- A beginning of the text in front of all offsets stays as it is. -/
theorem insertAt_append (before after : List Char)
    (h : ∀ p ∈ inserts, pos + byteLength before ≤ p.1) :
    insertAt inserts pos (before ++ after) =
      before ++ insertAt inserts (pos + byteLength before) after := by
  induction before generalizing pos with
  | nil => rfl
  | cons c cs ih =>
    have hc := c.utf8Size_pos
    have hstrings : stringsAt inserts pos = [] := stringsAt_of_ne fun p hp => by
      have := h p hp
      rw [byteLength_cons] at this
      omega
    rw [List.cons_append, insertAt, hstrings, List.nil_append, ih fun p hp => ?_, byteLength_cons,
      Nat.add_assoc, List.cons_append]
    have := h p hp
    rw [byteLength_cons] at this
    omega

theorem insertAt_of_lt (string : List Char) (cs : List Char) (h : n < pos) :
    insertAt ((n, string) :: inserts) pos cs = insertAt inserts pos cs := by
  have hstrings : ∀ pos, n < pos → stringsAt ((n, string) :: inserts) pos = stringsAt inserts pos :=
    fun pos h => by
      rw [stringsAt, List.filter_cons_of_neg (by simp; omega)]
      rfl
  induction cs generalizing pos with
  | nil => exact hstrings pos h
  | cons c cs ih => rw [insertAt, insertAt, hstrings pos h, ih (by omega)]

/-- A string in front of all others is put in first. -/
theorem insertAt_cons (string : List Char) (cs : List Char) (h : ∀ p ∈ inserts, n < p.1) :
    insertAt ((n, string) :: inserts) n cs = string ++ insertAt inserts n cs := by
  have hnone : stringsAt inserts n = [] := stringsAt_of_ne fun p hp => by
    have := h p hp
    omega
  have hstrings : stringsAt ((n, string) :: inserts) n = string ++ stringsAt inserts n := by
    rw [stringsAt, List.filter_cons_of_pos (by simp), List.flatMap_cons]
    rfl
  cases cs with
  | nil => rw [insertAt, hstrings, insertAt]
  | cons c cs =>
    have hc := c.utf8Size_pos
    rw [insertAt, hstrings, hnone, insertAt, hnone, insertAt_of_lt string cs (by omega),
      List.append_nil, List.nil_append]

/-- At most one string is put in at an offset. -/
theorem filter_of_nodup (h : (inserts.map Prod.fst).Nodup) (pos : Nat) :
    inserts.filter (·.1 == pos) = [] ∨ ∃ p, inserts.filter (·.1 == pos) = [p] := by
  induction inserts with
  | nil => exact .inl rfl
  | cons p ps ih =>
    obtain ⟨hp, hps⟩ := List.nodup_cons.1 h
    by_cases hpos : p.1 = pos
    · have hrest : ps.filter (·.1 == pos) = [] := List.filter_eq_nil_iff.2 fun q hq heq =>
        hp (List.mem_map.2 ⟨q, hq, (by simpa using heq : q.1 = pos).trans hpos.symm⟩)
      exact .inr ⟨p, by rw [List.filter_cons_of_pos (by simpa using hpos), hrest]⟩
    · rw [List.filter_cons_of_neg (by simpa using hpos)]
      exact ih hps

/-- The order in which strings are given does not matter. -/
theorem insertAt_perm (hperm : inserts.Perm inserts') (h : (inserts.map Prod.fst).Nodup)
    (cs : List Char) : insertAt inserts pos cs = insertAt inserts' pos cs := by
  have hstrings : ∀ pos, stringsAt inserts pos = stringsAt inserts' pos := fun pos => by
    have hfilter := hperm.filter (·.1 == pos)
    rcases filter_of_nodup h pos with hnil | ⟨p, hone⟩
    · rw [hnil, List.nil_perm] at hfilter
      rw [stringsAt, stringsAt, hnil, hfilter]
    · rw [hone, List.singleton_perm] at hfilter
      rw [stringsAt, stringsAt, hone, hfilter]
  induction cs generalizing pos with
  | nil => exact hstrings pos
  | cons c cs ih => rw [insertAt, insertAt, hstrings pos, ih]

end Gloss.Text
