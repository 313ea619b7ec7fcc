import Mathlib.Data.List.Forall2
import Mathlib.Tactic.SplitIfs
import ViewQuery.Text.Octets

set_option autoImplicit false

namespace ViewQuery.Text

section octets

theorem toList_loop (bs : ByteArray) (i : Nat) (r : List UInt8) :
    ByteArray.toList.loop bs i r = r.reverse ++ bs.data.toList.drop i := by
  fun_induction ByteArray.toList.loop bs i r with
  | case1 i r inside ih =>
    have size : i < bs.data.toList.length := inside
    have next : bs.get! i = bs.data.toList[i] := getElem!_pos bs.data i inside
    rw [ih, List.drop_eq_getElem_cons size, next]
    simp
  | case2 i r past =>
    have size : bs.data.toList.length ≤ i := Nat.le_of_not_lt past
    rw [List.drop_eq_nil_of_le size, List.append_nil]

theorem toList_toUTF8 (s : String) : s.toUTF8.toList = s.toList.flatMap String.utf8EncodeChar := by
  have encoded : s.toByteArray = s.toList.utf8Encode := by
    rw [← String.toByteArray_ofList, String.ofList_toList]
  rw [ByteArray.toList, toList_loop, String.toUTF8_eq_toByteArray, encoded, List.utf8Encode,
    List.toList_data_toByteArray]
  rfl

theorem toUTF8_toList_inj {s t : String} : s.toUTF8.toList = t.toUTF8.toList ↔ s = t := by
  constructor
  · intro same
    rw [ByteArray.toList, ByteArray.toList, toList_loop, toList_loop] at same
    exact String.toByteArray_inj.1 (ByteArray.ext (Array.toList_inj.1 same))
  · rintro rfl
    rfl

end octets

section pieces

variable {a : UInt8} {ranges : List OctetRange} {more : List UInt8} {c : Char} {n : Nat}

theorem contains_iff {r : OctetRange} {b : UInt8} :
    r.contains b ↔ r.least.toNat ≤ b.toNat ∧ b.toNat ≤ r.greatest.toNat := by
  simp [OctetRange.contains, UInt8.le_iff_toNat_le]

theorem following?_eq (a : UInt8) : following? a =
    if a.toNat < 0x80 then some []
    else if a.toNat < 0xc2 then none
    else if a.toNat < 0xe0 then some [continuation]
    else if a.toNat = 0xe0 then some [⟨0xa0, 0xbf⟩, continuation]
    else if a.toNat = 0xed then some [⟨0x80, 0x9f⟩, continuation]
    else if a.toNat < 0xf0 then some [continuation, continuation]
    else if a.toNat = 0xf0 then some [⟨0x90, 0xbf⟩, continuation, continuation]
    else if a.toNat < 0xf4 then some [continuation, continuation, continuation]
    else if a.toNat = 0xf4 then some [⟨0x80, 0x8f⟩, continuation, continuation]
    else none := by
  simp only [following?, UInt8.lt_iff_toNat_lt, ← UInt8.toNat_inj]
  rfl

theorem fitting_append (inside : List.Forall₂ (fun r b => r.contains b) ranges more)
    (rest : List UInt8) : fitting ranges (more ++ rest) = more := by
  induction inside with
  | nil => cases rest <;> rfl
  | cons contained _ ih => simp only [List.cons_append, fitting, contained, if_true, ih]

theorem piece_append (follows : following? a = some ranges)
    (inside : List.Forall₂ (fun r b => r.contains b) ranges more) (rest : List UInt8) :
    piece a (more ++ rest) = (.char (assemble a more), more.length) := by
  simp only [piece, follows, fitting_append inside, inside.length_eq, if_true]

inductive Spells (c : Char) : List UInt8 → Prop
  | mk {a : UInt8} {ranges : List OctetRange} {more : List UInt8} : following? a = some ranges →
      List.Forall₂ (fun r b => r.contains b) ranges more → assemble a more = c →
      Spells c (a :: more)

theorem char_of_value (same : n = c.toNat) : Char.ofNat n = c := by
  rw [same, Char.ofNat_toNat]

theorem toNat_octet {m : Nat} (same : m = n) (small : n < 256) : (UInt8.ofNat m).toNat = n := by
  rw [same, UInt8.toNat_ofNat', Nat.mod_eq_of_lt small]

theorem toNat_trailing (n : Nat) : (UInt8.ofNat (n % 64 + 128)).toNat = n % 64 + 128 :=
  toNat_octet rfl (by omega)

theorem contains_trailing (n : Nat) : continuation.contains (UInt8.ofNat (n % 64 + 128)) := by
  rw [contains_iff, toNat_trailing]
  simp [continuation]
  omega

theorem following?_three (long : 0x800 ≤ n) (short : n < 0x10000)
    (noSurrogate : n < 0xd800 ∨ 0xdfff < n) :
    ∃ r, following? (UInt8.ofNat (n / 4096 % 16 + 224)) = some [r, continuation] ∧
      r.contains (UInt8.ofNat (n / 64 % 64 + 128)) := by
  have first : (UInt8.ofNat (n / 4096 % 16 + 224)).toNat = n / 4096 + 224 :=
    toNat_octet (by omega) (by omega)
  have follows := following?_eq (UInt8.ofNat (n / 4096 % 16 + 224))
  simp only [contains_iff, toNat_trailing]
  rw [first] at follows
  split_ifs at follows
  all_goals first
    | omega
    | refine ⟨_, follows, ?_⟩
      simp [continuation]
      omega

theorem following?_four (long : 0x10000 ≤ n) (short : n < 0x110000) :
    ∃ r, following? (UInt8.ofNat (n / 262144 % 8 + 240)) = some [r, continuation, continuation] ∧
      r.contains (UInt8.ofNat (n / 4096 % 64 + 128)) := by
  have first : (UInt8.ofNat (n / 262144 % 8 + 240)).toNat = n / 262144 + 240 :=
    toNat_octet (by omega) (by omega)
  have follows := following?_eq (UInt8.ofNat (n / 262144 % 8 + 240))
  simp only [contains_iff, toNat_trailing]
  rw [first] at follows
  split_ifs at follows
  all_goals first
    | omega
    | refine ⟨_, follows, ?_⟩
      simp [continuation]
      omega

theorem spells_encoded (c : Char) : Spells c (String.utf8EncodeChar c) := by
  have valid : c.toNat < 0xd800 ∨ 0xdfff < c.toNat ∧ c.toNat < 0x110000 := c.valid
  have code : c.val.toNat = c.toNat := rfl
  simp only [String.utf8EncodeChar, code]
  split_ifs with one two three
  · have first := toNat_octet (m := c.toNat) rfl (by omega)
    refine .mk (following?_eq _ ▸ if_pos (by omega)) .nil (char_of_value ?_)
    simpa [leadingBits] using first
  · have first : (UInt8.ofNat (c.toNat / 64 % 32 + 192)).toNat = c.toNat / 64 + 192 :=
      toNat_octet (by omega) (by omega)
    have follows : following? (UInt8.ofNat (c.toNat / 64 % 32 + 192)) = some [continuation] := by
      rw [following?_eq, if_neg (by omega), if_neg (by omega), if_pos (by omega)]
    refine .mk follows (.cons (contains_trailing _) .nil) (char_of_value ?_)
    simp only [List.foldl, leadingBits, List.length, first, toNat_trailing]
    omega
  · have first : (UInt8.ofNat (c.toNat / 4096 % 16 + 224)).toNat = c.toNat / 4096 + 224 :=
      toNat_octet (by omega) (by omega)
    obtain ⟨r, follows, second⟩ := following?_three (n := c.toNat) (by omega) (by omega) (by omega)
    refine .mk follows (.cons second (.cons (contains_trailing _) .nil)) (char_of_value ?_)
    simp only [List.foldl, leadingBits, List.length, first, toNat_trailing]
    omega
  · have first : (UInt8.ofNat (c.toNat / 262144 % 8 + 240)).toNat = c.toNat / 262144 + 240 :=
      toNat_octet (by omega) (by omega)
    obtain ⟨r, follows, second⟩ := following?_four (n := c.toNat) (by omega) (by omega)
    refine .mk follows (.cons second (.cons (contains_trailing _) (.cons (contains_trailing _)
      .nil))) (char_of_value ?_)
    simp only [List.foldl, leadingBits, List.length, first, toNat_trailing]
    omega

end pieces

section decoding

variable {c : Char} {cs : List Char} {octets more : List UInt8}

def encoded (cs : List Char) : List UInt8 := cs.flatMap String.utf8EncodeChar

theorem encoded_append (cs ds : List Char) : encoded (cs ++ ds) = encoded cs ++ encoded ds :=
  List.flatMap_append

theorem piecesAfter_length (more rest : List UInt8) :
    piecesAfter more.length (more ++ rest) = pieces rest := by
  induction more with
  | nil => rfl
  | cons b more ih => exact ih

theorem faultAfter_length (index : Nat) (more rest : List UInt8) :
    faultAfter index more.length (more ++ rest) = faultAfter (index + more.length) 0 rest := by
  induction more generalizing index with
  | nil => rfl
  | cons b more ih =>
    rw [List.cons_append, List.length_cons, faultAfter, ih, Nat.add_assoc, Nat.add_comm 1]

theorem Spells.pieces (text : Spells c octets) (rest : List UInt8) :
    Text.pieces (octets ++ rest) = .char c :: Text.pieces rest := by
  obtain ⟨follows, inside, rfl⟩ := text
  rw [List.cons_append, Text.pieces, piecesAfter, piece_append follows inside, piecesAfter_length]

theorem Spells.faultAfter (text : Spells c octets) (index : Nat) (rest : List UInt8) :
    Text.faultAfter index 0 (octets ++ rest) =
      Text.faultAfter (index + octets.length) 0 rest := by
  obtain ⟨follows, inside, rfl⟩ := text
  rw [List.cons_append, Text.faultAfter, piece_append follows inside]
  dsimp only
  rw [faultAfter_length, List.length_cons, Nat.add_assoc, Nat.add_comm 1]

theorem pieces_encoded (cs : List Char) : pieces (encoded cs) = cs.map .char := by
  induction cs with
  | nil => rfl
  | cons c cs ih =>
    have first := (spells_encoded c).pieces (encoded cs)
    rw [ih] at first
    exact first

theorem faultAfter_encoded (index : Nat) (cs : List Char) :
    faultAfter index 0 (encoded cs) = none := by
  induction cs generalizing index with
  | nil => rfl
  | cons c cs ih =>
    have first := (spells_encoded c).faultAfter index (encoded cs)
    rw [ih] at first
    exact first

theorem decode?_encoded (cs : List Char) : decode? (encoded cs) = some cs := by
  have shown : Piece.shown ∘ Piece.char = id := rfl
  rw [decode?, fault?, faultAfter_encoded, lossy, pieces_encoded, List.map_map, shown, List.map_id]

theorem utf8EncodeChar_small (small : c.toNat < 0x80) :
    String.utf8EncodeChar c = [UInt8.ofNat c.toNat] :=
  if_pos (Nat.le_of_lt_succ small)

theorem le_of_mem_utf8EncodeChar (large : 0x80 ≤ c.toNat) :
    ∀ b ∈ String.utf8EncodeChar c, 0x80 ≤ b.toNat := by
  have valid : c.toNat < 0xd800 ∨ 0xdfff < c.toNat ∧ c.toNat < 0x110000 := c.valid
  have code : c.val.toNat = c.toNat := rfl
  simp only [String.utf8EncodeChar, code]
  split_ifs with one two three
  · omega
  all_goals simp; omega

theorem mem_utf8EncodeChar_iff {b : UInt8} (small : b.toNat < 0x80) :
    b ∈ String.utf8EncodeChar c ↔ c.toNat = b.toNat := by
  by_cases one : c.toNat < 0x80
  · rw [utf8EncodeChar_small one, List.mem_singleton, ← UInt8.toNat_inj,
      toNat_octet rfl (by omega), eq_comm]
  · have large := le_of_mem_utf8EncodeChar (Nat.le_of_not_lt one)
    constructor
    · intro member
      exact absurd (large b member) (by omega)
    · omega

theorem mem_encoded_iff {b : UInt8} (small : b.toNat < 0x80) (same : c.toNat = b.toNat) :
    b ∈ encoded cs ↔ c ∈ cs := by
  simp only [encoded, List.mem_flatMap, mem_utf8EncodeChar_iff small, ← same, Char.toNat_inj]
  exact exists_eq_right

end decoding

end ViewQuery.Text
