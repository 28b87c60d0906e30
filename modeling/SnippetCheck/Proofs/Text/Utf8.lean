import SnippetCheck.Text.Marked

/-! Text that is sent as UTF-8 is read as it was sent: each character is read back from the bytes
that encode it, wherever they stand, and bytes that encode no text are read as none. With a mark in
front it is read as without one. -/

namespace SnippetCheck.Text

namespace Utf8

/-- The bytes of a text. -/
def encode (s : List Char) : List UInt8 := s.flatMap String.utf8EncodeChar

theorem scanFrom_whole {b : UInt8} {c : Char} (h : opening b = .whole c) (bs : List UInt8) :
    scanFrom none (b :: bs) = some c :: scanFrom none bs := by
  rw [scanFrom, h]
  rfl

theorem scanFrom_sequence {b : UInt8} {p : Pending} (h : opening b = .sequence p)
    (bs : List UInt8) : scanFrom none (b :: bs) = scanFrom (some p) bs := by
  rw [scanFrom, h]
  rfl

theorem toNat_ofNat_of_lt {n : Nat} (h : n < 256) : (UInt8.ofNat n).toNat = n := by
  rw [UInt8.toNat_ofNat']
  omega

/-- The last byte that a sequence owes completes it. -/
theorem scanFrom_last {bits low high m : Nat} (hm : m < 0x40) (hlow : low ≤ m + 0x80)
    (hhigh : m + 0x80 ≤ high) (bs : List UInt8) :
    scanFrom (some ⟨bits, 1, low, high⟩) (UInt8.ofNat (m + 0x80) :: bs) =
      some (Char.ofNat (bits * 64 + m)) :: scanFrom none bs := by
  have hbyte : (UInt8.ofNat (m + 0x80)).toNat = m + 0x80 := toNat_ofNat_of_lt (by omega)
  simp only [scanFrom, hbyte, if_pos (And.intro hlow hhigh), if_true, Nat.add_sub_cancel]

theorem scanFrom_more {bits owed low high m : Nat} (hm : m < 0x40) (hlow : low ≤ m + 0x80)
    (hhigh : m + 0x80 ≤ high) (bs : List UInt8) :
    scanFrom (some ⟨bits, owed + 2, low, high⟩) (UInt8.ofNat (m + 0x80) :: bs) =
      scanFrom (some ⟨bits * 64 + m, owed + 1, 0x80, 0xBF⟩) bs := by
  have hbyte : (UInt8.ofNat (m + 0x80)).toNat = m + 0x80 := toNat_ofNat_of_lt (by omega)
  have howed : owed + 2 ≠ 1 := by omega
  simp only [scanFrom, hbyte, if_pos (And.intro hlow hhigh), if_neg howed, Nat.add_sub_cancel]
  rfl

/-! ### First bytes -/

theorem opening_one {n : Nat} (h : n < 0x80) : opening (UInt8.ofNat n) = .whole (Char.ofNat n) := by
  rw [opening, toNat_ofNat_of_lt (by omega)]
  exact if_pos h

theorem opening_two {n : Nat} (hlow : 2 ≤ n) (hhigh : n < 0x20) :
    opening (UInt8.ofNat (n + 0xC0)) = .sequence ⟨n, 1, 0x80, 0xBF⟩ := by
  rw [opening, toNat_ofNat_of_lt (by omega)]
  rw [if_neg (by omega), if_neg (by omega), if_pos (by omega), Nat.add_sub_cancel]

/-- The bounds of the second of three bytes exclude what two bytes can say and the halves of
pairs. -/
theorem opening_three {n m : Nat} (hn : n < 0x10) (hm : m < 0x40) (hshort : n = 0 → 0x20 ≤ m)
    (hhalf : n = 0xD → m < 0x20) :
    ∃ low high, opening (UInt8.ofNat (n + 0xE0)) = .sequence ⟨n, 2, low, high⟩ ∧
      low ≤ m + 0x80 ∧ m + 0x80 ≤ high := by
  rw [opening, toNat_ofNat_of_lt (by omega)]
  rw [if_neg (by omega), if_neg (by omega), if_neg (by omega)]
  by_cases h0 : n = 0
  · subst h0
    exact ⟨0xA0, 0xBF, rfl, by omega, by omega⟩
  · rw [if_neg (by omega)]
    by_cases hD : n = 0xD
    · subst hD
      exact ⟨0x80, 0x9F, rfl, by omega, by omega⟩
    · rw [if_neg (by omega), if_pos (by omega), Nat.add_sub_cancel]
      exact ⟨0x80, 0xBF, rfl, by omega, by omega⟩

/-- The bounds of the second of four bytes exclude what three bytes can say and what no character
is. -/
theorem opening_four {n m : Nat} (hn : n < 5) (hm : m < 0x40) (hshort : n = 0 → 0x10 ≤ m)
    (hlast : n = 4 → m < 0x10) :
    ∃ low high, opening (UInt8.ofNat (n + 0xF0)) = .sequence ⟨n, 3, low, high⟩ ∧
      low ≤ m + 0x80 ∧ m + 0x80 ≤ high := by
  rw [opening, toNat_ofNat_of_lt (by omega)]
  rw [if_neg (by omega), if_neg (by omega), if_neg (by omega), if_neg (by omega),
    if_neg (by omega), if_neg (by omega)]
  by_cases h0 : n = 0
  · subst h0
    exact ⟨0x90, 0xBF, rfl, by omega, by omega⟩
  · rw [if_neg (by omega)]
    by_cases h4 : n = 4
    · subst h4
      exact ⟨0x80, 0x8F, rfl, by omega, by omega⟩
    · rw [if_pos (by omega), Nat.add_sub_cancel]
      exact ⟨0x80, 0xBF, rfl, by omega, by omega⟩

/-! ### Characters -/

theorem isValid (c : Char) : c.val.toNat < 0xD800 ∨ 0xDFFF < c.val.toNat ∧ c.val.toNat < 0x110000 :=
  c.valid

theorem scanFrom_utf8EncodeChar (c : Char) (bs : List UInt8) :
    scanFrom none (String.utf8EncodeChar c ++ bs) = some c :: scanFrom none bs := by
  have hchar : Char.ofNat c.val.toNat = c := Char.ofNat_toNat c
  have hvalid := isValid c
  unfold String.utf8EncodeChar
  generalize c.val.toNat = v at hchar hvalid
  simp only
  have hlast : v % 64 < 0x40 := by omega
  have hlow : 0x80 ≤ v % 64 + 0x80 := by omega
  have hhigh : v % 64 + 0x80 ≤ 0xBF := by omega
  by_cases h1 : v ≤ 127
  · rw [if_pos h1, List.singleton_append, scanFrom_whole (opening_one (by omega)), hchar]
  rw [if_neg h1]
  by_cases h2 : v ≤ 2047
  · have hfirst : v / 64 % 32 = v / 64 := by omega
    have hbits : v / 64 * 64 + v % 64 = v := by omega
    rw [if_pos h2, hfirst]
    simp only [List.cons_append, List.nil_append]
    rw [scanFrom_sequence (opening_two (by omega) (by omega)), scanFrom_last hlast hlow hhigh,
      hbits, hchar]
  rw [if_neg h2]
  have hmiddle : v / 64 % 64 < 0x40 := by omega
  by_cases h3 : v ≤ 65535
  · have hfirst : v / 4096 % 16 = v / 4096 := by omega
    have hbits : (v / 4096 * 64 + v / 64 % 64) * 64 + v % 64 = v := by omega
    obtain ⟨low, high, hopening, hlow', hhigh'⟩ :=
      opening_three (n := v / 4096) (by omega) hmiddle (by omega) (by omega)
    rw [if_pos h3, hfirst]
    simp only [List.cons_append, List.nil_append]
    rw [scanFrom_sequence hopening, scanFrom_more hmiddle hlow' hhigh',
      scanFrom_last hlast hlow hhigh, hbits, hchar]
  · have hfirst : v / 262144 % 8 = v / 262144 := by omega
    have hsecond : v / 4096 % 64 < 0x40 := by omega
    have hbits : ((v / 262144 * 64 + v / 4096 % 64) * 64 + v / 64 % 64) * 64 + v % 64 = v := by
      omega
    obtain ⟨low, high, hopening, hlow', hhigh'⟩ :=
      opening_four (n := v / 262144) (by omega) hsecond (by omega) (by omega)
    rw [if_neg h3, hfirst]
    simp only [List.cons_append, List.nil_append]
    rw [scanFrom_sequence hopening, scanFrom_more hsecond hlow' hhigh',
      scanFrom_more hmiddle (by omega) (by omega), scanFrom_last hlast hlow hhigh, hbits, hchar]

/-- The bytes of a text are scanned as its characters, without a gap. -/
theorem scan_encode (s : List Char) : scan (encode s) = s.map some := by
  induction s with
  | nil => rfl
  | cons c s ih =>
    have htail : scanFrom none (encode s) = s.map some := ih
    rw [encode, List.flatMap_cons, scan, scanFrom_utf8EncodeChar]
    rw [encode] at htail
    rw [htail, List.map_cons]

theorem decodeLossy_encode (s : List Char) : decodeLossy (encode s) = String.ofList s := by
  rw [decodeLossy, scan_encode, List.map_map]
  exact congrArg String.ofList (List.map_id s)

/-! ### Bytes without a gap -/

theorem toNat_ofNat_of_isValidChar {v : Nat} (h : v.isValidChar) :
    (Char.ofNat v).val.toNat = v := by
  rw [Char.ofNat, dif_pos h]
  rfl

theorem ofNat_eq_of_toNat {b : UInt8} {n : Nat} (h : n = b.toNat) : UInt8.ofNat n = b := by
  rw [h, UInt8.ofNat_toNat]

theorem utf8EncodeChar_one {b : UInt8} (h : b.toNat < 0x80) :
    String.utf8EncodeChar (Char.ofNat b.toNat) = [b] := by
  unfold String.utf8EncodeChar
  rw [toNat_ofNat_of_isValidChar (.inl (by omega))]
  simp only
  rw [if_pos (by omega), UInt8.ofNat_toNat]

theorem utf8EncodeChar_two {b b₁ : UInt8} (hlow : 0xC2 ≤ b.toNat) (hhigh : b.toNat < 0xE0)
    (hlow₁ : 0x80 ≤ b₁.toNat) (hhigh₁ : b₁.toNat ≤ 0xBF) :
    String.utf8EncodeChar (Char.ofNat ((b.toNat - 0xC0) * 64 + (b₁.toNat - 0x80))) = [b, b₁] := by
  unfold String.utf8EncodeChar
  rw [toNat_ofNat_of_isValidChar (.inl (by omega))]
  simp only
  rw [if_neg (by omega), if_pos (by omega), ofNat_eq_of_toNat (b := b) (by omega),
    ofNat_eq_of_toNat (b := b₁) (by omega)]

theorem utf8EncodeChar_three {b b₁ b₂ : UInt8} (hlow : 0xE0 ≤ b.toNat) (hhigh : b.toNat < 0xF0)
    (hlow₁ : 0x80 ≤ b₁.toNat) (hhigh₁ : b₁.toNat ≤ 0xBF)
    (hshort : b.toNat = 0xE0 → 0xA0 ≤ b₁.toNat) (hhalf : b.toNat = 0xED → b₁.toNat ≤ 0x9F)
    (hlow₂ : 0x80 ≤ b₂.toNat) (hhigh₂ : b₂.toNat ≤ 0xBF) :
    String.utf8EncodeChar (Char.ofNat
      (((b.toNat - 0xE0) * 64 + (b₁.toNat - 0x80)) * 64 + (b₂.toNat - 0x80))) = [b, b₁, b₂] := by
  unfold String.utf8EncodeChar
  rw [toNat_ofNat_of_isValidChar (by unfold Nat.isValidChar; omega)]
  simp only
  rw [if_neg (by omega), if_neg (by omega), if_pos (by omega),
    ofNat_eq_of_toNat (b := b) (by omega), ofNat_eq_of_toNat (b := b₁) (by omega),
    ofNat_eq_of_toNat (b := b₂) (by omega)]

theorem utf8EncodeChar_four {b b₁ b₂ b₃ : UInt8} (hlow : 0xF0 ≤ b.toNat) (hhigh : b.toNat < 0xF5)
    (hlow₁ : 0x80 ≤ b₁.toNat) (hhigh₁ : b₁.toNat ≤ 0xBF)
    (hshort : b.toNat = 0xF0 → 0x90 ≤ b₁.toNat) (hlast : b.toNat = 0xF4 → b₁.toNat ≤ 0x8F)
    (hlow₂ : 0x80 ≤ b₂.toNat) (hhigh₂ : b₂.toNat ≤ 0xBF) (hlow₃ : 0x80 ≤ b₃.toNat)
    (hhigh₃ : b₃.toNat ≤ 0xBF) :
    String.utf8EncodeChar (Char.ofNat ((((b.toNat - 0xF0) * 64 + (b₁.toNat - 0x80)) * 64 +
      (b₂.toNat - 0x80)) * 64 + (b₃.toNat - 0x80))) = [b, b₁, b₂, b₃] := by
  unfold String.utf8EncodeChar
  rw [toNat_ofNat_of_isValidChar (by unfold Nat.isValidChar; omega)]
  simp only
  rw [if_neg (by omega), if_neg (by omega), if_neg (by omega),
    ofNat_eq_of_toNat (b := b) (by omega), ofNat_eq_of_toNat (b := b₁) (by omega),
    ofNat_eq_of_toNat (b := b₂) (by omega), ofNat_eq_of_toNat (b := b₃) (by omega)]

/-- The sequences that a first byte begins. -/
theorem opening_eq_sequence {b : UInt8} {p : Pending} (h : opening b = .sequence p) :
    (0xC2 ≤ b.toNat ∧ b.toNat < 0xE0 ∧ p = ⟨b.toNat - 0xC0, 1, 0x80, 0xBF⟩) ∨
    (∃ low high, 0xE0 ≤ b.toNat ∧ b.toNat < 0xF0 ∧ p = ⟨b.toNat - 0xE0, 2, low, high⟩ ∧
      0x80 ≤ low ∧ high ≤ 0xBF ∧ (b.toNat = 0xE0 → 0xA0 ≤ low) ∧
      (b.toNat = 0xED → high ≤ 0x9F)) ∨
    ∃ low high, 0xF0 ≤ b.toNat ∧ b.toNat < 0xF5 ∧ p = ⟨b.toNat - 0xF0, 3, low, high⟩ ∧
      0x80 ≤ low ∧ high ≤ 0xBF ∧ (b.toNat = 0xF0 → 0x90 ≤ low) ∧
      (b.toNat = 0xF4 → high ≤ 0x8F) := by
  unfold opening at h
  dsimp only at h
  split at h
  · cases h
  split at h
  · cases h
  split at h
  · obtain rfl := Opening.sequence.inj h
    exact .inl ⟨by omega, by omega, rfl⟩
  split at h
  next hn =>
    obtain rfl := Opening.sequence.inj h
    exact .inr (.inl ⟨0xA0, 0xBF, by omega, by omega, by rw [hn], by omega, by omega, by omega,
      by omega⟩)
  split at h
  next hn =>
    obtain rfl := Opening.sequence.inj h
    exact .inr (.inl ⟨0x80, 0x9F, by omega, by omega, by rw [hn], by omega, by omega, by omega,
      by omega⟩)
  split at h
  · obtain rfl := Opening.sequence.inj h
    exact .inr (.inl ⟨0x80, 0xBF, by omega, by omega, rfl, by omega, by omega, by omega,
      by omega⟩)
  split at h
  next hn =>
    obtain rfl := Opening.sequence.inj h
    exact .inr (.inr ⟨0x90, 0xBF, by omega, by omega, by rw [hn], by omega, by omega, by omega,
      by omega⟩)
  split at h
  · obtain rfl := Opening.sequence.inj h
    exact .inr (.inr ⟨0x80, 0xBF, by omega, by omega, rfl, by omega, by omega, by omega,
      by omega⟩)
  split at h
  next hn =>
    obtain rfl := Opening.sequence.inj h
    exact .inr (.inr ⟨0x80, 0x8F, by omega, by omega, by rw [hn], by omega, by omega, by omega,
      by omega⟩)
  · cases h

theorem opening_eq_whole {b : UInt8} {c : Char} (h : opening b = .whole c) :
    b.toNat < 0x80 ∧ c = Char.ofNat b.toNat := by
  unfold opening at h
  dsimp only at h
  split at h
  next hb => exact ⟨hb, by cases h; rfl⟩
  · repeat' split at h
    all_goals cases h

/-- A sequence ends in a gap, or a byte within the bounds goes on with it. -/
theorem scanFrom_some_cases (p : Pending) (bytes : List UInt8) :
    (∃ l, scanFrom (some p) bytes = none :: l) ∨
      ∃ b bs, bytes = b :: bs ∧ p.low ≤ b.toNat ∧ b.toNat ≤ p.high ∧
        (p.owed ≠ 1 → scanFrom (some p) bytes =
          scanFrom (some ⟨p.bits * 64 + (b.toNat - 0x80), p.owed - 1, 0x80, 0xBF⟩) bs) := by
  cases bytes with
  | nil => exact .inl ⟨_, rfl⟩
  | cons b bs =>
    by_cases hb : p.low ≤ b.toNat ∧ b.toNat ≤ p.high
    · refine .inr ⟨b, bs, rfl, hb.1, hb.2, fun howed => ?_⟩
      rw [scanFrom]
      simp only [if_pos hb, if_neg howed]
    · left
      rw [scanFrom]
      simp only [if_neg hb]
      cases opening b <;> exact ⟨_, rfl⟩

theorem encode_cons (c : Char) (s : List Char) :
    encode (c :: s) = String.utf8EncodeChar c ++ encode s :=
  List.flatMap_cons

/-- The byte of a line feed stands for nothing else. -/
theorem newline_not_mem_utf8EncodeChar {c : Char} (h : c ≠ '\n') :
    0x0A ∉ String.utf8EncodeChar c := by
  have hchar : Char.ofNat c.val.toNat = c := Char.ofNat_toNat c
  have hvalid := isValid c
  unfold String.utf8EncodeChar
  generalize c.val.toNat = v at hchar hvalid
  have hbyte {n : Nat} (hn : n ≠ 10) (hlt : n < 256) : (0x0A : UInt8) ≠ UInt8.ofNat n := by
    intro heq
    have htoNat := congrArg UInt8.toNat heq
    rw [toNat_ofNat_of_lt hlt] at htoNat
    exact hn htoNat.symm
  have hv : v ≠ 10 := fun hv => h (hchar.symm.trans (congrArg Char.ofNat hv))
  simp only
  split
  · simp only [List.mem_cons, List.not_mem_nil, or_false]
    exact hbyte hv (by omega)
  split
  · simp only [List.mem_cons, List.not_mem_nil, or_false, not_or]
    exact ⟨hbyte (by omega) (by omega), hbyte (by omega) (by omega)⟩
  split
  · simp only [List.mem_cons, List.not_mem_nil, or_false, not_or]
    exact ⟨hbyte (by omega) (by omega), hbyte (by omega) (by omega),
      hbyte (by omega) (by omega)⟩
  · simp only [List.mem_cons, List.not_mem_nil, or_false, not_or]
    exact ⟨hbyte (by omega) (by omega), hbyte (by omega) (by omega),
      hbyte (by omega) (by omega), hbyte (by omega) (by omega)⟩

/-- Bytes start with a gap, or with the bytes of a character. -/
theorem scan_cases (bytes : List UInt8) :
    bytes = [] ∨ (∃ l, scan bytes = none :: l) ∨
      ∃ c rest, bytes = String.utf8EncodeChar c ++ rest := by
  cases bytes with
  | nil => exact .inl rfl
  | cons b bs =>
    right
    cases hopening : opening b with
    | whole c =>
      obtain ⟨hb, rfl⟩ := opening_eq_whole hopening
      exact .inr ⟨_, bs, by rw [utf8EncodeChar_one hb, List.singleton_append]⟩
    | stray =>
      left
      rw [scan, scanFrom, hopening]
      exact ⟨_, rfl⟩
    | sequence p =>
      rw [scan, scanFrom_sequence hopening]
      obtain hgap | ⟨b₁, bs₁, rfl, hlow₁, hhigh₁, h₁⟩ := scanFrom_some_cases p bs
      · exact .inl hgap
      obtain ⟨hlow, hhigh, rfl⟩ | ⟨low, high, hlow, hhigh, rfl, hl, hh, hshort, hhalf⟩ |
        ⟨low, high, hlow, hhigh, rfl, hl, hh, hshort, hlast⟩ := opening_eq_sequence hopening
      · have hc := utf8EncodeChar_two hlow hhigh hlow₁ hhigh₁
        exact .inr ⟨_, bs₁, (congrArg (· ++ bs₁) hc).symm⟩
      · rw [h₁ (show 2 ≠ 1 by decide)]
        obtain hgap | ⟨b₂, bs₂, rfl, hlow₂, hhigh₂, -⟩ := scanFrom_some_cases _ bs₁
        · exact .inl hgap
        dsimp only at hlow₁ hhigh₁ hlow₂ hhigh₂
        have hc := utf8EncodeChar_three hlow hhigh (Nat.le_trans hl hlow₁) (Nat.le_trans hhigh₁ hh)
          (by omega) (by omega) hlow₂ hhigh₂
        exact .inr ⟨_, bs₂, (congrArg (· ++ bs₂) hc).symm⟩
      · rw [h₁ (show 3 ≠ 1 by decide)]
        obtain hgap | ⟨b₂, bs₂, rfl, hlow₂, hhigh₂, h₂⟩ := scanFrom_some_cases _ bs₁
        · exact .inl hgap
        rw [h₂ (show 2 ≠ 1 by decide)]
        obtain hgap | ⟨b₃, bs₃, rfl, hlow₃, hhigh₃, -⟩ := scanFrom_some_cases _ bs₂
        · exact .inl hgap
        dsimp only at hlow₁ hhigh₁ hlow₂ hhigh₂ hlow₃ hhigh₃
        have hc := utf8EncodeChar_four hlow hhigh (Nat.le_trans hl hlow₁) (Nat.le_trans hhigh₁ hh)
          (by omega) (by omega) hlow₂ hhigh₂ hlow₃ hhigh₃
        exact .inr ⟨_, bs₃, (congrArg (· ++ bs₃) hc).symm⟩

/-- Bytes that are scanned without a gap encode the characters found. -/
theorem eq_encode_of_scan {bytes : List UInt8} {cs : List Char}
    (h : scan bytes = cs.map some) : bytes = encode cs := by
  induction cs generalizing bytes with
  | nil =>
    obtain rfl | ⟨l, hgap⟩ | ⟨c, rest, rfl⟩ := scan_cases bytes
    · rfl
    · cases h.symm.trans hgap
    · cases h.symm.trans (scanFrom_utf8EncodeChar c rest)
  | cons d ds ih =>
    obtain rfl | ⟨l, hgap⟩ | ⟨c, rest, rfl⟩ := scan_cases bytes
    · cases h
    · cases h.symm.trans hgap
    · obtain ⟨hd, hds⟩ := List.cons.inj (h.symm.trans (scanFrom_utf8EncodeChar c rest))
      rw [encode_cons, Option.some.inj hd, ih hds.symm]

theorem mapM_id_eq_some_iff {l : List (Option Char)} {cs : List Char} :
    l.mapM id = some cs ↔ l = cs.map some := by
  induction l generalizing cs with
  | nil => cases cs <;> simp
  | cons o l ih =>
    rw [List.mapM_cons]
    cases o with
    | none => cases cs <;> simp
    | some c =>
      cases hl : l.mapM id with
      | none => cases cs <;> simp_all [← ih]
      | some ds => cases cs <;> simp_all [← ih]

/-- A text is read from just those bytes that encode it. -/
theorem decode?_eq_some_iff {bytes : List UInt8} {s : String} :
    decode? bytes = some s ↔ bytes = encode s.toList := by
  rw [decode?, Option.map_eq_some_iff]
  constructor
  · rintro ⟨cs, hcs, rfl⟩
    rw [String.toList_ofList]
    exact eq_encode_of_scan (mapM_id_eq_some_iff.1 hcs)
  · rintro rfl
    exact ⟨s.toList, mapM_id_eq_some_iff.2 (scan_encode _), String.ofList_toList⟩

/-! ### Marks -/

theorem dropMark_of_head?_ne {s : List Char} (h : s.head? ≠ some '\uFEFF') : dropMark s = s := by
  unfold dropMark
  split
  · exact absurd rfl h
  · rfl

theorem toList_decodeLossy_utf8EncodeChar (c : Char) (bytes : List UInt8) :
    (decodeLossy (String.utf8EncodeChar c ++ bytes)).toList =
      c :: (decodeLossy bytes).toList := by
  rw [decodeLossy, scan, scanFrom_utf8EncodeChar, decodeLossy, String.toList_ofList,
    String.toList_ofList]
  rfl

theorem utf8EncodeChar_mark : String.utf8EncodeChar '\uFEFF' = utf8Mark := by decide

end Utf8

/-- Where bytes without a mark are read as UTF-8, so are all that do not start with a mark of
UTF-16, and a mark of their own is dropped. -/
theorem ofMarked_decodeLossy {bytes : List UInt8} (hhigh : ¬ highFirstMark <+: bytes)
    (hlow : ¬ lowFirstMark <+: bytes) :
    ofMarked Utf8.decodeLossy bytes =
      String.ofList (Utf8.dropMark (Utf8.decodeLossy bytes).toList) := by
  have hno {mark : List UInt8} (h : ¬ mark <+: bytes) : mark.isPrefixOf bytes = false :=
    Bool.eq_false_iff.2 fun hprefix => h (List.isPrefixOf_iff_prefix.1 hprefix)
  by_cases hmark : utf8Mark <+: bytes
  · obtain ⟨rest, rfl⟩ := hmark
    have hfirst : utf8Mark.isPrefixOf (utf8Mark ++ rest) = true := by simp
    have hrest : (utf8Mark ++ rest).drop 3 = rest := rfl
    rw [ofMarked, if_pos hfirst, hrest, ← Utf8.utf8EncodeChar_mark,
      Utf8.toList_decodeLossy_utf8EncodeChar]
    exact String.ofList_toList.symm
  · have hhead : (Utf8.decodeLossy bytes).toList.head? ≠ some '\uFEFF' := by
      obtain rfl | ⟨l, hgap⟩ | ⟨c, rest, rfl⟩ := Utf8.scan_cases bytes
      · decide
      · rw [Utf8.decodeLossy, hgap, String.toList_ofList]
        simp [Utf8.replacement]
      · rw [Utf8.toList_decodeLossy_utf8EncodeChar]
        rintro ⟨rfl⟩
        exact hmark ⟨rest, by rw [Utf8.utf8EncodeChar_mark]⟩
    rw [ofMarked, hno hmark, hno hhigh, hno hlow, Utf8.dropMark_of_head?_ne hhead,
      String.ofList_toList]
    rfl

/-- A text that is sent as UTF-8 is read as it was sent, without the mark that it may start with. -/
theorem ofMarked_encode (s : List Char) :
    ofMarked Utf8.decodeLossy (Utf8.encode s) = String.ofList (Utf8.dropMark s) := by
  -- no character is encoded by what a mark of UTF-16 starts with
  have hno {mark : List UInt8}
      (hgap : ∀ rest, ∃ l, Utf8.scan (mark ++ rest) = none :: l) : ¬ mark <+: Utf8.encode s := by
    rintro ⟨rest, hrest⟩
    obtain ⟨l, hl⟩ := hgap rest
    rw [hrest, Utf8.scan_encode] at hl
    cases s <;> cases hl
  rw [ofMarked_decodeLossy (hno fun _ => ⟨_, rfl⟩) (hno fun _ => ⟨_, rfl⟩),
    Utf8.decodeLossy_encode, String.toList_ofList]

end SnippetCheck.Text
