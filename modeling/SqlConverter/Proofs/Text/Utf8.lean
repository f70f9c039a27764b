import SqlConverter.Proofs.Failure
import SqlConverter.Text.Utf8

namespace SqlConverter.Text

theorem toList_loop_eq (bytes : ByteArray) (i : Nat) (front : List UInt8) :
    ByteArray.toList.loop bytes i front = front.reverse ++ bytes.data.toList.drop i := by
  fun_induction ByteArray.toList.loop bytes i front with
  | case1 i front inside ih =>
    have bound : i < bytes.data.toList.length := by simpa using inside
    rw [ih, List.drop_eq_getElem_cons bound]
    simp [ByteArray.get!, inside]
  | case2 i front beyond =>
    rw [List.drop_eq_nil_of_le (by simpa using Nat.le_of_not_lt beyond)]
    simp

theorem bytesOf_eq_flatMap (s : String) :
    bytesOf s = s.toList.flatMap String.utf8EncodeChar := by
  have encoded : s.toUTF8 = (s.toList.flatMap String.utf8EncodeChar).toByteArray := by
    conv => lhs; rw [← String.ofList_toList (s := s)]
    rfl
  rw [bytesOf, ByteArray.toList, toList_loop_eq, encoded, List.toList_data_toByteArray]
  rfl

namespace Utf8

variable {b : UInt8} {bytes rest : Bytes} {cs : List Char} {p : Pending}
  {missing least greatest value : Nat}

theorem pieces_cons (p : Pending) (b : UInt8) (rest : Bytes) :
    pieces p (b :: rest) = (step p b.toNat).1 ++ pieces (step p b.toNat).2 rest := rfl

theorem pieces_single (low : b.toNat < 0x80) (rest : Bytes) :
    pieces idle (b :: rest) = some (.ofNat b.toNat) :: pieces idle rest := by
  simp [pieces_cons, step, idle, first, low]

theorem pieces_start (high : 0x80 ≤ b.toNat) (known : start? b.toNat = some p) (rest : Bytes) :
    pieces idle (b :: rest) = pieces p rest := by
  simp [pieces_cons, step, idle, first, known, Nat.not_lt.mpr high]

theorem pieces_last (h : least ≤ b.toNat ∧ b.toNat ≤ greatest) (rest : Bytes) :
    pieces ⟨1, least, greatest, value⟩ (b :: rest) =
      some (.ofNat (value * 0x40 + (b.toNat - 0x80))) :: pieces idle rest := by
  simp [pieces_cons, step, h]

theorem pieces_more (h : least ≤ b.toNat ∧ b.toNat ≤ greatest) (rest : Bytes) :
    pieces ⟨missing + 2, least, greatest, value⟩ (b :: rest) =
      pieces ⟨missing + 1, 0x80, 0xBF, value * 0x40 + (b.toNat - 0x80)⟩ rest := by
  simp [pieces_cons, step, h]

theorem start?_two {b : Nat} (h : 0xC2 ≤ b ∧ b < 0xE0) :
    start? b = some ⟨1, 0x80, 0xBF, b - 0xC0⟩ := by
  rw [start?, if_neg (by omega), if_pos h.2]

theorem start?_three {b : Nat} (h : 0xE0 ≤ b ∧ b < 0xF0) :
    start? b =
      some ⟨2, if b = 0xE0 then 0xA0 else 0x80, if b = 0xED then 0x9F else 0xBF, b - 0xE0⟩ := by
  rw [start?, if_neg (by omega), if_neg (by omega), if_pos h.2]

theorem start?_four {b : Nat} (h : 0xF0 ≤ b ∧ b < 0xF5) :
    start? b =
      some ⟨3, if b = 0xF0 then 0x90 else 0x80, if b = 0xF4 then 0x8F else 0xBF, b - 0xF0⟩ := by
  rw [start?, if_neg (by omega), if_neg (by omega), if_neg (by omega), if_pos h.2]

theorem toNat_ofNat {n : Nat} (h : n < 256) : (UInt8.ofNat n).toNat = n := by
  simpa using h

/-- A character is one byte, or a first one that says how many follow, by its number. -/
theorem pieces_utf8EncodeChar (c : Char) (rest : Bytes) :
    pieces idle (String.utf8EncodeChar c ++ rest) = some c :: pieces idle rest := by
  have scalar : c.toNat < 0xD800 ∨ 0xDFFF < c.toNat ∧ c.toNat < 0x110000 := c.valid
  have same : Char.ofNat c.toNat = c := Char.ofNat_toNat c
  unfold String.utf8EncodeChar
  rw [Char.toNat] at scalar same
  dsimp only
  generalize c.val.toNat = n at scalar same
  split
  · next one =>
    have low := toNat_ofNat (n := n) (by omega)
    rw [List.singleton_append, pieces_single (by omega), low, same]
  · split
    · next two =>
      have first := toNat_ofNat (n := n / 64 % 32 + 192) (by omega)
      have last := toNat_ofNat (n := n % 64 + 128) (by omega)
      have known := start?_two (b := n / 64 % 32 + 192) (by omega)
      rw [← first] at known
      rw [List.cons_append, List.singleton_append, pieces_start (by omega) known,
        pieces_last (by omega), first, last]
      have number : (n / 64 % 32 + 192 - 0xC0) * 0x40 + (n % 64 + 128 - 0x80) = n := by omega
      rw [number, same]
    · split
      · next three =>
        have first := toNat_ofNat (n := n / 4096 % 16 + 224) (by omega)
        have second := toNat_ofNat (n := n / 64 % 64 + 128) (by omega)
        have last := toNat_ofNat (n := n % 64 + 128) (by omega)
        have known := start?_three (b := n / 4096 % 16 + 224) (by omega)
        rw [← first] at known
        rw [List.cons_append, List.cons_append, List.singleton_append,
          pieces_start (by omega) known, pieces_more (by split <;> split <;> omega),
          pieces_last (by omega), first, second, last]
        have number : ((n / 4096 % 16 + 224 - 0xE0) * 0x40 + (n / 64 % 64 + 128 - 0x80)) * 0x40 +
            (n % 64 + 128 - 0x80) = n := by omega
        rw [number, same]
      · next four =>
        have first := toNat_ofNat (n := n / 262144 % 8 + 240) (by omega)
        have second := toNat_ofNat (n := n / 4096 % 64 + 128) (by omega)
        have third := toNat_ofNat (n := n / 64 % 64 + 128) (by omega)
        have last := toNat_ofNat (n := n % 64 + 128) (by omega)
        have known := start?_four (b := n / 262144 % 8 + 240) (by omega)
        rw [← first] at known
        rw [List.cons_append, List.cons_append, List.cons_append, List.singleton_append,
          pieces_start (by omega) known, pieces_more (by split <;> split <;> omega),
          pieces_more (by omega), pieces_last (by omega), first, second, third, last]
        have number : (((n / 262144 % 8 + 240 - 0xF0) * 0x40 + (n / 4096 % 64 + 128 - 0x80)) *
            0x40 + (n / 64 % 64 + 128 - 0x80)) * 0x40 + (n % 64 + 128 - 0x80) = n := by omega
        rw [number, same]

theorem pieces_flatMap (cs : List Char) :
    pieces idle (cs.flatMap String.utf8EncodeChar) = cs.map some := by
  induction cs with
  | nil => rfl
  | cons c cs ih => rw [List.flatMap_cons, pieces_utf8EncodeChar, ih, List.map_cons]

theorem exists_last (h : pieces ⟨1, least, greatest, value⟩ bytes = cs.map some) :
    ∃ b rest later, bytes = b :: rest ∧ (least ≤ b.toNat ∧ b.toNat ≤ greatest) ∧
      cs = .ofNat (value * 0x40 + (b.toNat - 0x80)) :: later ∧
      pieces idle rest = later.map some := by
  cases bytes with
  | nil => cases cs <;> simp [pieces] at h
  | cons b rest =>
    by_cases bounds : least ≤ b.toNat ∧ b.toNat ≤ greatest
    · rw [pieces_last bounds] at h
      cases cs with
      | nil => cases h
      | cons c later =>
        simp only [List.map_cons, List.cons.injEq, Option.some.injEq] at h
        exact ⟨b, rest, later, rfl, bounds, by rw [h.1], h.2⟩
    · cases cs <;> simp [pieces_cons, step, bounds] at h

theorem exists_more (h : pieces ⟨missing + 2, least, greatest, value⟩ bytes = cs.map some) :
    ∃ b rest, bytes = b :: rest ∧ (least ≤ b.toNat ∧ b.toNat ≤ greatest) ∧
      pieces ⟨missing + 1, 0x80, 0xBF, value * 0x40 + (b.toNat - 0x80)⟩ rest = cs.map some := by
  cases bytes with
  | nil => cases cs <;> simp [pieces] at h
  | cons b rest =>
    by_cases bounds : least ≤ b.toNat ∧ b.toNat ≤ greatest
    · rw [pieces_more bounds] at h
      exact ⟨b, rest, rfl, bounds, h⟩
    · cases cs <;> simp [pieces_cons, step, bounds] at h

theorem utf8EncodeChar_ofNat {n : Nat} (h : n < 0xD800 ∨ 0xDFFF < n ∧ n < 0x110000) :
    String.utf8EncodeChar (.ofNat n) =
      if n ≤ 127 then [.ofNat n]
      else if n ≤ 2047 then [.ofNat (n / 64 % 32 + 192), .ofNat (n % 64 + 128)]
      else if n ≤ 65535 then
        [.ofNat (n / 4096 % 16 + 224), .ofNat (n / 64 % 64 + 128), .ofNat (n % 64 + 128)]
      else [.ofNat (n / 262144 % 8 + 240), .ofNat (n / 4096 % 64 + 128),
        .ofNat (n / 64 % 64 + 128), .ofNat (n % 64 + 128)] := by
  have number : (Char.ofNat n).val.toNat = n := by
    have valid : n.isValidChar := h
    rw [Char.ofNat, dif_pos valid]
    rfl
  unfold String.utf8EncodeChar
  dsimp only
  rw [number]

/-- Bytes with no malformed piece begin with the bytes of their first character. -/
theorem exists_char (h : pieces idle (b :: rest) = cs.map some) :
    ∃ c later tail, cs = c :: later ∧ b :: rest = String.utf8EncodeChar c ++ tail ∧
      pieces idle tail = later.map some := by
  have byte {n : Nat} {b : UInt8} (same : n = b.toNat) : UInt8.ofNat n = b := by
    rw [same, UInt8.ofNat_toNat]
  by_cases one : b.toNat < 0x80
  · rw [pieces_single one] at h
    cases cs with
    | nil => cases h
    | cons c later =>
      simp only [List.map_cons, List.cons.injEq, Option.some.injEq] at h
      refine ⟨c, later, rest, rfl, ?_, h.2⟩
      rw [← h.1, utf8EncodeChar_ofNat (by omega), if_pos (by omega), byte rfl,
        List.singleton_append]
  by_cases two : 0xC2 ≤ b.toNat ∧ b.toNat < 0xE0
  · rw [pieces_start (by omega) (start?_two two)] at h
    obtain ⟨b₂, tail, later, rfl, bounds, rfl, spelled⟩ := exists_last h
    refine ⟨_, later, tail, rfl, ?_, spelled⟩
    rw [utf8EncodeChar_ofNat (by omega), if_neg (by omega), if_pos (by omega),
      byte (b := b) (by omega), byte (b := b₂) (by omega)]
    rfl
  by_cases three : 0xE0 ≤ b.toNat ∧ b.toNat < 0xF0
  · rw [pieces_start (by omega) (start?_three three)] at h
    obtain ⟨b₂, _, rfl, bounds, h⟩ := exists_more h
    obtain ⟨b₃, tail, later, rfl, bounds₃, rfl, spelled⟩ := exists_last h
    -- The narrow bounds keep out surrogates and numbers that two bytes can spell.
    have limits : 0x80 ≤ b₂.toNat ∧ b₂.toNat ≤ 0xBF ∧ (b.toNat = 0xE0 → 0xA0 ≤ b₂.toNat) ∧
        (b.toNat = 0xED → b₂.toNat ≤ 0x9F) := by
      split at bounds <;> split at bounds <;> omega
    refine ⟨_, later, tail, rfl, ?_, spelled⟩
    rw [utf8EncodeChar_ofNat (by omega), if_neg (by omega), if_neg (by omega),
      if_pos (by omega), byte (b := b) (by omega), byte (b := b₂) (by omega),
      byte (b := b₃) (by omega)]
    rfl
  by_cases four : 0xF0 ≤ b.toNat ∧ b.toNat < 0xF5
  · rw [pieces_start (by omega) (start?_four four)] at h
    obtain ⟨b₂, _, rfl, bounds, h⟩ := exists_more h
    obtain ⟨b₃, _, rfl, bounds₃, h⟩ := exists_more h
    obtain ⟨b₄, tail, later, rfl, bounds₄, rfl, spelled⟩ := exists_last h
    have limits : 0x80 ≤ b₂.toNat ∧ b₂.toNat ≤ 0xBF ∧ (b.toNat = 0xF0 → 0x90 ≤ b₂.toNat) ∧
        (b.toNat = 0xF4 → b₂.toNat ≤ 0x8F) := by
      split at bounds <;> split at bounds <;> omega
    refine ⟨_, later, tail, rfl, ?_, spelled⟩
    rw [utf8EncodeChar_ofNat (by omega), if_neg (by omega), if_neg (by omega),
      if_neg (by omega), byte (b := b) (by omega), byte (b := b₂) (by omega),
      byte (b := b₃) (by omega), byte (b := b₄) (by omega)]
    rfl
  -- Any other byte starts no character.
  · have unknown : start? b.toNat = none := by
      rw [start?]
      split
      · rfl
      · rw [if_neg (by omega), if_neg (by omega), if_neg (by omega)]
    cases cs <;> simp [pieces_cons, step, idle, first, one, unknown] at h

theorem eq_flatMap_of_pieces (h : pieces idle bytes = cs.map some) :
    bytes = cs.flatMap String.utf8EncodeChar := by
  induction cs generalizing bytes with
  | nil =>
    cases bytes with
    | nil => rfl
    | cons b rest =>
      obtain ⟨c, later, tail, none, -⟩ := exists_char h
      cases none
  | cons c cs ih =>
    cases bytes with
    | nil => simp [pieces, idle] at h
    | cons b rest =>
      obtain ⟨c, later, tail, same, split, spelled⟩ := exists_char h
      cases same
      rw [split, ih spelled, List.flatMap_cons]

/-- Exactly the bytes of a text are read as that text. -/
theorem decode?_eq_some_iff {s : String} : decode? bytes = some s ↔ bytes = bytesOf s := by
  have read : decode? bytes = some s ↔ pieces idle bytes = s.toList.map some := by
    rw [decode?, Option.map_eq_some_iff]
    simp only [mapM_id_eq_some_iff]
    constructor
    · rintro ⟨cs, found, rfl⟩
      rw [found, String.toList_ofList]
    · intro found
      exact ⟨s.toList, found, String.ofList_toList⟩
  rw [read, bytesOf_eq_flatMap]
  constructor
  · exact eq_flatMap_of_pieces
  · rintro rfl
    exact pieces_flatMap s.toList

end Utf8

end SqlConverter.Text
