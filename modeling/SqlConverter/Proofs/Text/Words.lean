import SqlConverter.Proofs.Text.Trimming

namespace SqlConverter.Text

variable {a b cs gap before after : List Char} {c : Char}

theorem words_of_blank (h : isBlank c = true) (cs : List Char) : words (c :: cs) = words cs := by
  cases cs <;> simp [words, h]

theorem words_cons_blank (hc : isBlank c = false) {d : Char} (hd : isBlank d = true)
    (rest : List Char) : words (c :: d :: rest) = [c] :: words rest := by
  rw [words, if_neg (by simp [hc])]
  simp only [hd, if_true, words_of_blank hd]

theorem words_cons_filled (hc : isBlank c = false) {d : Char} (hd : isBlank d = false)
    (rest : List Char) : words (c :: d :: rest) = (words (d :: rest)).modifyHead (c :: ·) := by
  rw [words, if_neg (by simp [hc])]
  simp [hd]

theorem words_eq_splitOnP (cs : List Char) :
    words cs = (cs.splitOnP isBlank).filter (· ≠ []) := by
  induction cs with
  | nil => simp [words, List.splitOnP_nil]
  | cons c cs ih =>
    rw [List.splitOnP_cons_eq_if_modifyHead]
    cases hc : isBlank c with
    | true => simp [words_of_blank hc, ih]
    | false =>
      cases cs with
      | nil => simp [words, hc, List.splitOnP_nil]
      | cons d rest =>
        obtain ⟨piece, later, pieces⟩ :=
          List.exists_cons_of_ne_nil (List.splitOnP_ne_nil isBlank rest)
        rw [List.splitOnP_cons_eq_if_modifyHead, pieces] at ih ⊢
        cases hd : isBlank d with
        | true => simp_all [words_cons_blank, words_of_blank]
        | false => simp_all [words_cons_filled]

/-- A text can be cut at any of its blanks. -/
theorem words_append_blank (h : isBlank c = true) (a b : List Char) :
    words (a ++ c :: b) = words a ++ words b := by
  rw [words_eq_splitOnP, List.splitOnP_append_cons a b h, List.filter_append,
    ← words_eq_splitOnP, ← words_eq_splitOnP]

theorem words_blank_append (h : allBlank gap) (cs : List Char) :
    words (gap ++ cs) = words cs := by
  induction gap with
  | nil => rfl
  | cons c gap ih =>
    simp only [allBlank, List.all_cons, Bool.and_eq_true] at h
    rw [List.cons_append, words_of_blank h.1, ih h.2]

theorem words_append_gap (filled : gap ≠ []) (h : allBlank gap) (a b : List Char) :
    words (a ++ gap ++ b) = words a ++ words b := by
  obtain ⟨c, more, rfl⟩ := List.exists_cons_of_ne_nil filled
  simp only [allBlank, List.all_cons, Bool.and_eq_true] at h
  rw [List.append_assoc, List.cons_append, words_append_blank h.1, words_blank_append h.2]

theorem words_padded (hb : allBlank before) (ha : allBlank after) (cs : List Char) :
    words (before ++ cs ++ after) = words cs := by
  rw [List.append_assoc, words_blank_append hb]
  by_cases filled : after = []
  · rw [filled, List.append_nil]
  · have cut := words_append_gap filled ha cs []
    rwa [List.append_nil, words, List.append_nil] at cut

theorem toNat_toUpper (c : Char) :
    c.toUpper.toNat = if 97 ≤ c.toNat ∧ c.toNat ≤ 122 then c.toNat - 32 else c.toNat := by
  have small : 'a'.val ≤ c.val ∧ c.val ≤ 'z'.val ↔ 97 ≤ c.toNat ∧ c.toNat ≤ 122 := by
    simp [UInt32.le_iff_toNat_le]
  unfold Char.toUpper
  split
  · next h =>
    have range := small.mp h
    rw [if_pos range]
    simp only [Char.toNat, UInt32.toNat_add] at range ⊢
    change (c.val.toNat + 4294967264) % 4294967296 = _
    omega
  · next h => rw [if_neg (small.not.mp h)]

theorem toNat_toLower (c : Char) :
    c.toLower.toNat = if 65 ≤ c.toNat ∧ c.toNat ≤ 90 then c.toNat + 32 else c.toNat := by
  have great : c.val ≥ 'A'.val ∧ c.val ≤ 'Z'.val ↔ 65 ≤ c.toNat ∧ c.toNat ≤ 90 := by
    simp [UInt32.le_iff_toNat_le]
  unfold Char.toLower
  split
  · next h =>
    have range := great.mp h
    rw [if_pos range]
    simp only [Char.toNat, UInt32.toNat_add] at range ⊢
    change (c.val.toNat + 32) % 4294967296 = _
    omega
  · next h => rw [if_neg (great.not.mp h)]

/-- What is the same in capital letters is the same in small ones. -/
theorem toUpper_eq_iff {c d : Char} : c.toUpper = d.toUpper ↔ c.toLower = d.toLower := by
  rw [← Char.toNat_inj, ← Char.toNat_inj, toNat_toUpper, toNat_toUpper, toNat_toLower,
    toNat_toLower]
  split <;> split <;> split <;> split <;> omega

theorem upper_eq_iff : upper a = upper b ↔ lower a = lower b := by
  induction a generalizing b with
  | nil => cases b <;> simp [upper, lower]
  | cons c a ih =>
    cases b with
    | nil => simp [upper, lower]
    | cons d b =>
      have others := ih (b := b)
      simp only [upper, lower] at others
      simp only [upper, lower, List.map_cons, List.cons.injEq, toUpper_eq_iff, others]

/-- No letter is a blank. -/
theorem isBlank_toUpper (c : Char) : isBlank c.toUpper = isBlank c := by
  have blank (d : Char) (letter : 65 ≤ d.toNat ∧ d.toNat ≤ 122) : isBlank d = false := by
    have other : ∀ b ∈ blanks, b.toNat < 65 ∨ 122 < b.toNat := by simp [blanks]
    rw [isBlank, ← Bool.not_eq_true, List.contains_iff_mem]
    intro among
    have := other d among
    omega
  have folded := toNat_toUpper c
  split at folded
  · next small => rw [blank c (by omega), blank c.toUpper (by omega)]
  · next same => rw [Char.toNat_inj.mp folded]

theorem isBlank_toLower (c : Char) : isBlank c.toLower = isBlank c := by
  have settled : c.toLower.toLower = c.toLower := by
    have once := toNat_toLower c
    have again := toNat_toLower c.toLower
    rw [← Char.toNat_inj]
    split at once <;> split at again <;> omega
  rw [← isBlank_toUpper c.toLower, toUpper_eq_iff.mpr settled, isBlank_toUpper]

theorem words_upper (cs : List Char) : words (upper cs) = (words cs).map upper := by
  induction cs with
  | nil => rfl
  | cons c cs ih =>
    have first := isBlank_toUpper c
    cases hc : isBlank c with
    | true =>
      rw [words_of_blank hc, ← ih]
      exact words_of_blank (first.trans hc) (upper cs)
    | false =>
      cases cs with
      | nil => simp [words, upper, hc, first]
      | cons d rest =>
        have second := isBlank_toUpper d
        change words (d.toUpper :: upper rest) = _ at ih
        change words (c.toUpper :: d.toUpper :: upper rest) = _
        cases hd : isBlank d with
        | true =>
          rw [words_of_blank (second.trans hd), words_of_blank hd] at ih
          rw [words_cons_blank (first.trans hc) (second.trans hd), words_cons_blank hc hd, ih]
          rfl
        | false =>
          rw [words_cons_filled (first.trans hc) (second.trans hd), words_cons_filled hc hd, ih]
          cases words (d :: rest) <;> rfl

end SqlConverter.Text
