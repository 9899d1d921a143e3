import MessageBundles.Proofs.Text.Pieces
import MessageBundles.Text.Utf8

/-
  UTF-8, continued — bytes of one text only, slashes that are slashes, and the order of texts

  A character below U+0080 is one byte, its own number; the bytes of every other character are all
  0x80 or more. So a byte that looks like a slash is a slash, and cutting the bytes of a text at
  slashes is cutting the text. Longer characters start with greater bytes, so bytes keep the order of
  the characters.
    1. `encode_injective` — two texts with the same bytes are one text.
    2. `split_encode` — the pieces of the bytes are the bytes of the pieces.
    3. `decodeLossy_of_decode?` — of bytes that are a text nothing is lost.
    4. `eq_mark_of_items` — only the bytes of the byte order mark are read as its character.
    5. `encode_lt_iff` — texts stand in the order of their bytes.
-/

namespace MessageBundles.Text.Utf8

/-- One byte that is the character's number, or several bytes from 0x80 on. -/
theorem utf8EncodeChar_cases (c : Char) :
    (c.toNat < 0x80 ∧ String.utf8EncodeChar c = [UInt8.ofNat c.toNat]) ∨
      ∀ b ∈ String.utf8EncodeChar c, 0x80 ≤ b.toNat := by
  -- The cases are the lengths a character can have.
  fun_cases String.utf8EncodeChar c
  · rename_i v h
    exact .inl ⟨Nat.lt_succ_of_le h, rfl⟩
  all_goals
    right
    simp only [List.mem_cons, List.not_mem_nil, or_false, forall_eq_or_imp, forall_eq,
      UInt8.toNat_ofNat']
    omega

/-- A byte below 0x80 stands for the character with its number, wherever it occurs. -/
theorem eq_of_mem_utf8EncodeChar {b : UInt8} {c : Char} (hb : b.toNat < 0x80)
    (h : b ∈ String.utf8EncodeChar c) : c.toNat = b.toNat := by
  rcases utf8EncodeChar_cases c with ⟨hc, heq⟩ | hall
  · rw [heq, List.mem_singleton] at h
    rw [h, UInt8.toNat_ofNat']
    omega
  · have := hall b h
    omega

theorem encode_cons (c : Char) (rest : List Char) :
    encode (c :: rest) = String.utf8EncodeChar c ++ encode rest := rfl

theorem encode_injective {a b : List Char} (h : encode a = encode b) : a = b := by
  have hbytes : a.utf8Encode = b.utf8Encode := congrArg List.toByteArray h
  have hdecode := congrArg ByteArray.utf8Decode? hbytes
  rw [List.utf8Decode?_utf8Encode, List.utf8Decode?_utf8Encode] at hdecode
  simpa using hdecode

/-- The pieces of the bytes of a text are the bytes of its pieces. -/
theorem split_encode (cs : List Char) : split 0x2F (encode cs) = (split '/' cs).map encode := by
  induction cs with
  | nil => rfl
  | cons c rest ih =>
    by_cases hc : c = '/'
    · subst hc
      rw [encode_cons, show String.utf8EncodeChar '/' = [0x2F] from by decide, List.singleton_append,
        split, if_pos rfl, split, if_pos rfl, ih, List.map_cons]
      rfl
    · have hslash : (0x2F : UInt8) ∉ String.utf8EncodeChar c := by
        intro h
        have := eq_of_mem_utf8EncodeChar (by decide) h
        exact hc (Char.toNat_inj.mp this)
      rw [encode_cons, split_append_of_not_mem hslash, ih, split, if_neg hc]
      cases hs : split '/' rest with
      | nil => exact absurd hs (split_ne_nil '/' rest)
      | cons piece pieces => rfl

/-! ## Reading -/

theorem mapM_id_eq_some_iff {α : Type} {l : List (Option α)} {t : List α} :
    l.mapM id = some t ↔ l = t.map some := by
  induction l generalizing t with
  | nil => cases t <;> simp
  | cons x rest ih =>
    cases x with
    | none => cases t <;> simp
    | some a =>
      cases t with
      | nil => simp [Option.bind_eq_some_iff]
      | cons b others =>
        simp only [List.mapM_cons, id_eq, List.map_cons, List.cons.injEq, Option.some.injEq, ← ih]
        cases rest.mapM id <;> simp

variable {bytes : List UInt8} {cs : List Char}

theorem decode?_eq_some_iff : decode? bytes = some cs ↔ items none bytes = cs.map some :=
  mapM_id_eq_some_iff

/-- Of bytes that are a text nothing is lost. -/
theorem decodeLossy_of_decode? (h : decode? bytes = some cs) : decodeLossy bytes = cs := by
  rw [decodeLossy, decode?_eq_some_iff.mp h, List.map_map]
  exact List.map_id cs

/-- The character whose bytes are the byte order mark. -/
def mark : Char := '\uFEFF'

theorem items_mark (rest : List UInt8) :
    items none (0xEF :: 0xBB :: 0xBF :: rest) = some mark :: items none rest := rfl

theorem items_start {c : Char} {l : List (Option Char)} (h : items none bytes = some c :: l) :
    ∃ b rest, bytes = b :: rest ∧ (start b = .single c ∨
      ∃ p, start b = .longer p ∧ items (some p) rest = some c :: l) := by
  cases bytes with
  | nil => cases h
  | cons b rest =>
    refine ⟨b, rest, rfl, ?_⟩
    rw [items] at h
    split at h
    · rename_i hstart
      cases h
      exact .inl hstart
    · rename_i p hstart
      exact .inr ⟨p, hstart, h⟩
    · cases h

theorem items_pending {p : Pending} {c : Char} {l : List (Option Char)}
    (h : items (some p) bytes = some c :: l) :
    ∃ b rest, bytes = b :: rest ∧ p.low ≤ b ∧ b ≤ p.high ∧
      ((p.missing ≤ 1 ∧ c = Char.ofNat (p.next b).bits) ∨
        (1 < p.missing ∧ items (some (p.next b)) rest = some c :: l)) := by
  cases bytes with
  | nil => cases h
  | cons b rest =>
    refine ⟨b, rest, rfl, ?_⟩
    rw [items] at h
    split at h
    · rename_i hin
      rw [Bool.and_eq_true, decide_eq_true_eq, decide_eq_true_eq] at hin
      refine ⟨hin.1, hin.2, ?_⟩
      split at h
      · rename_i hlast
        exact .inl ⟨hlast, (Option.some.inj (List.cons.inj h).1).symm⟩
      · rename_i hmore
        exact .inr ⟨Nat.lt_of_not_le hmore, h⟩
    · cases h

theorem eq_of_mark_eq {n : Nat} (h : mark = Char.ofNat n) : n = 0xFEFF := by
  have hmark : (Char.ofNat n).toNat = 0xFEFF := congrArg Char.toNat h.symm
  rcases toNat_ofNat_cases n with heq | hzero
  · omega
  · omega

theorem ne_mark_of_single {b : UInt8} {c : Char} (h : start b = .single c) : c ≠ mark := by
  unfold start at h
  split at h
  · rename_i hb
    cases h
    intro heq
    have hnat := eq_of_mark_eq heq.symm
    have hsmall : b.toNat < 0x80 := hb
    omega
  · split at h
    · cases h
    · split at h
      · cases h
      · split at h
        · cases h
        · split at h <;> cases h

/-- The start of a longer sequence: the bounds on the next byte, the bits, and how many bytes are
missing. -/
theorem longer_cases {b : UInt8} {p : Pending} (h : start b = .longer p) :
    0x80 ≤ p.low.toNat ∧ p.high.toNat ≤ 0xBF ∧
      ((p.missing = 1 ∧ p.bits < 0x20) ∨
        (p.missing = 2 ∧ p.bits < 0x10 ∧ b.toNat = 0xE0 + p.bits) ∨
        (p.missing = 3 ∧ (p.bits = 0 → 0x90 ≤ p.low.toNat))) := by
  unfold start at h
  split at h
  · cases h
  · split at h
    · cases h
    · split at h
      · rename_i hhigh
        cases h
        have : b.toNat < 0xE0 := hhigh
        exact ⟨Nat.le_refl 0x80, Nat.le_refl 0xBF, .inl ⟨rfl, by simp only; omega⟩⟩
      · split at h
        · rename_i hlow hhigh
          cases h
          have hb : b.toNat < 0xF0 := hhigh
          have hb' : ¬ b.toNat < 0xE0 := hlow
          refine ⟨?_, ?_, .inr (.inl ⟨rfl, by simp only; omega, by simp only; omega⟩)⟩
          · simp only
            split <;> decide
          · simp only
            split <;> decide
        · split at h
          · rename_i hlow hhigh
            cases h
            have hb' : ¬ b.toNat < 0xF0 := hlow
            refine ⟨?_, ?_, .inr (.inr ⟨rfl, ?_⟩)⟩
            · simp only
              split <;> decide
            · simp only
              split <;> decide
            · simp only
              intro hzero
              have hb : b = 0xF0 := UInt8.toNat_inj.mp (by simp; omega)
              rw [if_pos hb]
              decide
          · cases h

/-- Only the bytes of the byte order mark are read as this character. -/
theorem eq_mark_of_items {l : List (Option Char)} (h : items none bytes = some mark :: l) :
    ∃ rest, bytes = 0xEF :: 0xBB :: 0xBF :: rest := by
  obtain ⟨b, rest, rfl, hsingle | ⟨p, hp, h⟩⟩ := items_start h
  · exact absurd rfl (ne_mark_of_single hsingle)
  obtain ⟨hlow, hhigh, hcases⟩ := longer_cases hp
  obtain ⟨b₁, rest, rfl, hlow₁, hhigh₁, ⟨hlast, hc⟩ | ⟨hmore, h⟩⟩ := items_pending h
  · have hn := eq_of_mark_eq hc
    have hl : p.low.toNat ≤ b₁.toNat := hlow₁
    have hh : b₁.toNat ≤ p.high.toNat := hhigh₁
    simp only [Pending.next] at hn
    omega
  obtain ⟨b₂, rest, rfl, hlow₂, hhigh₂, ⟨hlast, hc⟩ | ⟨hmore, h⟩⟩ := items_pending h
  · have hn := eq_of_mark_eq hc
    have hl : p.low.toNat ≤ b₁.toNat := hlow₁
    have hh : b₁.toNat ≤ p.high.toNat := hhigh₁
    have hl₂ : 0x80 ≤ b₂.toNat := hlow₂
    have hh₂ : b₂.toNat ≤ 0xBF := hhigh₂
    simp only [Pending.next] at hn hlast hmore
    have hb : b = 0xEF := UInt8.toNat_inj.mp (by simp; omega)
    have hb₁ : b₁ = 0xBB := UInt8.toNat_inj.mp (by simp; omega)
    have hb₂ : b₂ = 0xBF := UInt8.toNat_inj.mp (by simp; omega)
    exact ⟨rest, by rw [hb, hb₁, hb₂]⟩
  obtain ⟨b₃, rest, rfl, hlow₃, hhigh₃, ⟨hlast, hc⟩ | ⟨hmore', h⟩⟩ := items_pending h
  · have hn := eq_of_mark_eq hc
    have hl : p.low.toNat ≤ b₁.toNat := hlow₁
    have hh : b₁.toNat ≤ p.high.toNat := hhigh₁
    have hl₂ : 0x80 ≤ b₂.toNat := hlow₂
    have hh₂ : b₂.toNat ≤ 0xBF := hhigh₂
    simp only [Pending.next] at hn hlast hmore
    omega
  · simp only [Pending.next] at hmore hmore'
    omega

/-! ## The order of bytes -/

/-- The bytes of a character by their number, with the number of the character read off them. -/
theorem utf8EncodeChar_bytes (c : Char) :
    (∃ p, String.utf8EncodeChar c = [p] ∧ c.toNat = p.toNat ∧ p.toNat < 0x80) ∨
      (∃ p q, String.utf8EncodeChar c = [p, q] ∧ 0x80 ≤ c.toNat ∧
        c.toNat + 0x3080 = p.toNat * 64 + q.toNat ∧
        (0xC0 ≤ p.toNat ∧ p.toNat < 0xE0) ∧ 0x80 ≤ q.toNat ∧ q.toNat < 0xC0) ∨
      (∃ p q r, String.utf8EncodeChar c = [p, q, r] ∧ 0x800 ≤ c.toNat ∧
        c.toNat + 0xE2080 = (p.toNat * 64 + q.toNat) * 64 + r.toNat ∧
        (0xE0 ≤ p.toNat ∧ p.toNat < 0xF0) ∧ (0x80 ≤ q.toNat ∧ q.toNat < 0xC0) ∧
        0x80 ≤ r.toNat ∧ r.toNat < 0xC0) ∨
      ∃ p q r s, String.utf8EncodeChar c = [p, q, r, s] ∧ 0x10000 ≤ c.toNat ∧
        c.toNat + 0x3C82080 = ((p.toNat * 64 + q.toNat) * 64 + r.toNat) * 64 + s.toNat ∧
        0xF0 ≤ p.toNat ∧ (0x80 ≤ q.toNat ∧ q.toNat < 0xC0) ∧
        (0x80 ≤ r.toNat ∧ r.toNat < 0xC0) ∧ 0x80 ≤ s.toNat ∧ s.toNat < 0xC0 := by
  have hlast : c.toNat < 0x110000 := by
    rcases c.valid with h | h
    · exact Nat.lt_trans h (by decide)
    · exact h.2
  have htoNat : c.val.toNat = c.toNat := rfl
  fun_cases String.utf8EncodeChar c with
  | case1 n h =>
    refine .inl ⟨_, rfl, ?_⟩
    rw [UInt8.toNat_ofNat']
    omega
  | case2 n h₁ h₂ =>
    refine .inr (.inl ⟨_, _, rfl, ?_⟩)
    rw [UInt8.toNat_ofNat', UInt8.toNat_ofNat']
    omega
  | case3 n h₁ h₂ h₃ =>
    refine .inr (.inr (.inl ⟨_, _, _, rfl, ?_⟩))
    rw [UInt8.toNat_ofNat', UInt8.toNat_ofNat', UInt8.toNat_ofNat']
    omega
  | case4 n h₁ h₂ h₃ =>
    refine .inr (.inr (.inr ⟨_, _, _, _, rfl, ?_⟩))
    rw [UInt8.toNat_ofNat', UInt8.toNat_ofNat', UInt8.toNat_ofNat', UInt8.toNat_ofNat']
    omega

/-- Two characters are told apart by their own bytes, in their own order, whatever follows. -/
theorem utf8EncodeChar_append_lt {c d : Char} (h : c < d) (x y : List UInt8) :
    String.utf8EncodeChar c ++ x < String.utf8EncodeChar d ++ y := by
  have hnat : c.toNat < d.toNat := h
  -- One case per two lengths; the numbers decide where the bytes first differ.
  rcases utf8EncodeChar_bytes c with
      ⟨p, hc, _⟩ | ⟨p, q, hc, _⟩ | ⟨p, q, r, hc, _⟩ | ⟨p, q, r, s, hc, _⟩ <;>
    rcases utf8EncodeChar_bytes d with
      ⟨p', hd, _⟩ | ⟨p', q', hd, _⟩ | ⟨p', q', r', hd, _⟩ | ⟨p', q', r', s', hd, _⟩ <;>
    simp only [hc, hd, List.cons_append, List.nil_append, List.cons_lt_cons_iff,
      UInt8.lt_iff_toNat_lt, ← UInt8.toNat_inj] <;>
    omega

theorem encode_lt_encode {a b : List Char} (h : a < b) : encode a < encode b := by
  induction h with
  | @nil d rest =>
    obtain ⟨p, bytes, hd⟩ := List.exists_cons_of_ne_nil (@String.utf8EncodeChar_ne_nil d)
    rw [encode_cons, hd]
    exact List.nil_lt_cons _ _
  | rel h => exact utf8EncodeChar_append_lt h _ _
  | cons h ih => exact List.append_left_lt ih

/-- Texts stand in the order of their bytes. -/
theorem encode_lt_iff {a b : List Char} : encode a < encode b ↔ a < b := by
  refine ⟨fun h => ?_, encode_lt_encode⟩
  apply Classical.byContradiction
  intro hnot
  rcases List.le_iff_lt_or_eq.mp (List.not_lt.mp hnot) with hlt | heq
  · exact List.lt_asymm h (encode_lt_encode hlt)
  · rw [heq] at h
    exact List.lt_irrefl _ h

end MessageBundles.Text.Utf8
