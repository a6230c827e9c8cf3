import Migrations.Proofs.Text.Basic

namespace Migrations.Text

section Writing

variable {α : Type} [LT α] {bound : Nat} {write : Nat → List α}

/-- The numbers below a bound come in the order of their writings, whatever follows these. -/
def Ascends (bound : Nat) (write : Nat → List α) : Prop :=
  ∀ m n, m < n → n < bound → ∀ s t, write m ++ s < write n ++ t

/-- What follows a number counts among equal numbers. -/
theorem Ascends.append_lt (h : Ascends bound write) {m n : Nat} (hn : n < bound) {s t : List α}
    (hlt : m < n ∨ m = n ∧ s < t) : write m ++ s < write n ++ t := by
  rcases hlt with hlt | ⟨rfl, hst⟩
  · exact h m n hlt hn s t
  · exact List.append_left_lt hst

theorem Ascends.congr (h : Ascends bound write) {other : Nat → List α}
    (he : ∀ n < bound, other n = write n) : Ascends bound other := by
  intro m n hlt hn s t
  rw [he m (Nat.lt_trans hlt hn), he n hn]
  exact h m n hlt hn s t

theorem ascends_digit {digit : Nat → α} (hd : ∀ m n, m < n → n < bound → digit m < digit n) :
    Ascends bound fun n => [digit n] := by
  intro m n hlt hn s t
  exact List.cons_lt_cons_iff.mpr (.inl (hd m n hlt hn))

/-- One more digit behind the others. -/
theorem Ascends.digit (h : Ascends bound write) {base : Nat} (digit : Nat → α)
    (hd : ∀ m n, m < n → n < base → digit m < digit n) :
    Ascends (base * bound) fun n => write (n / base) ++ [digit (n % base)] := by
  intro m n hlt hn s t
  have hb : 0 < base := Nat.pos_of_lt_mul_right hn
  have hq : n / base < bound := Nat.div_lt_of_lt_mul hn
  simp only [List.append_assoc]
  -- The other digits write the quotient, and the last one decides if that is the same.
  apply h.append_lt hq
  rcases Nat.lt_or_eq_of_le (Nat.div_le_div_right (c := base) (Nat.le_of_lt hlt)) with hlow | heq
  · exact .inl hlow
  · refine .inr ⟨heq, ascends_digit hd _ _ ?_ (Nat.mod_lt n hb) s t⟩
    have hm := Nat.div_add_mod m base
    have hn := Nat.div_add_mod n base
    rw [heq] at hm
    omega

/-- The numbers up to `last` are written in one way and the further ones in another, which comes
later. -/
theorem Ascends.piecewise {last : Nat} {low high : Nat → List α} (hl : Ascends (last + 1) low)
    (hh : Ascends bound high)
    (hlead : ∀ m n, m ≤ last → last < n → n < bound → ∀ s t, low m ++ s < high n ++ t) :
    Ascends bound fun n => if n ≤ last then low n else high n := by
  intro m n hlt hn s t
  dsimp only
  by_cases hnl : n ≤ last
  · rw [if_pos (Nat.le_trans (Nat.le_of_lt hlt) hnl), if_pos hnl]
    exact hl m n hlt (Nat.lt_succ_of_le hnl) s t
  · rw [if_neg hnl]
    split
    · rename_i hml
      exact hlead m n hml (Nat.lt_of_not_le hnl) hn s t
    · exact hh m n hlt hn s t

end Writing

def bytes (t : Text) : List UInt8 := t.flatMap String.utf8EncodeChar

theorem ofNat_lt_ofNat {m n : Nat} (h : m < n) (hn : n < 256) : UInt8.ofNat m < UInt8.ofNat n := by
  rw [UInt8.lt_iff_toNat_lt, UInt8.toNat_ofNat', UInt8.toNat_ofNat']
  omega

/-- The first byte of a character announces how many bytes follow it. -/
theorem ascends_leading (lead count : Nat) (h : lead + count ≤ 256) :
    Ascends count fun n => [UInt8.ofNat (n % count + lead)] := by
  apply ascends_digit
  intro m n hlt hn
  have hm := Nat.mod_eq_of_lt (Nat.lt_trans hlt hn)
  have hn' := Nat.mod_eq_of_lt hn
  apply ofNat_lt_ofNat
  · omega
  · omega

/-- Each further byte holds the next six bits. -/
theorem Ascends.following {bound : Nat} {write : Nat → List UInt8} (h : Ascends bound write) :
    Ascends (64 * bound) fun n => write (n / 64) ++ [UInt8.ofNat (n % 64 + 0x80)] := by
  apply h.digit fun n => UInt8.ofNat (n + 0x80)
  intro m n hlt hn
  apply ofNat_lt_ofNat
  · omega
  · omega

theorem leading_lt {m n : Nat} (h : m < n) (hn : n < 256) (low high s t : List UInt8) :
    UInt8.ofNat m :: low ++ s < UInt8.ofNat n :: high ++ t :=
  List.cons_lt_cons_iff.mpr (.inl (ofNat_lt_ofNat h hn))

/-- Characters come in the order of their encodings. The number of bytes grows with the code point,
and among equally many bytes these are its digits. -/
theorem utf8EncodeChar_append_lt {c d : Char} (h : c < d) (s t : List UInt8) :
    String.utf8EncodeChar c ++ s < String.utf8EncodeChar d ++ t := by
  have hone : Ascends 0x80 fun n => [UInt8.ofNat n] :=
    ascends_digit fun m n hlt hn => ofNat_lt_ofNat hlt (by omega)
  have htwo := (ascends_leading 0xc0 0x20 (by decide)).following
  have hthree := (ascends_leading 0xe0 0x10 (by decide)).following.following
  have hfour := (ascends_leading 0xf0 0x08 (by decide)).following.following.following
  simp only [Nat.div_div_eq_div_mul] at htwo hthree hfour
  -- From the longest encodings to the shortest ones, of which the first bytes are the least.
  have hlong := hthree.piecewise hfour fun m n _ _ _ s t =>
    leading_lt (by omega) (by omega) _ _ s t
  have hseveral := htwo.piecewise hlong fun m n _ _ _ s t => by
    split <;> exact leading_lt (by omega) (by omega) _ _ s t
  have hall := hone.piecewise hseveral fun m n _ _ _ s t => by
    split
    · exact leading_lt (by omega) (by omega) _ _ s t
    · split <;> exact leading_lt (by omega) (by omega) _ _ s t
  have hd : d.val.toNat < 0x110000 := by
    rcases d.valid with hd | ⟨-, hd⟩
    · exact Nat.lt_trans hd (by decide)
    · exact hd
  exact hall c.val.toNat d.val.toNat h (Nat.lt_trans hd (by decide)) s t

theorem bytes_cons (c : Char) (t : Text) : bytes (c :: t) = String.utf8EncodeChar c ++ bytes t :=
  List.flatMap_cons

theorem bytes_lt_bytes {t u : Text} (h : t < u) : bytes t < bytes u := by
  induction t generalizing u with
  | nil =>
    cases u with
    | nil => exact absurd h (List.lt_irrefl _)
    | cons d ds =>
      obtain ⟨b, rest, hb⟩ := List.exists_cons_of_ne_nil (String.utf8EncodeChar_ne_nil (c := d))
      rw [bytes_cons, hb]
      exact List.nil_lt_cons b _
  | cons c cs ih =>
    cases u with
    | nil => exact absurd h (List.not_lt_nil _)
    | cons d ds =>
      rw [bytes_cons, bytes_cons]
      rcases List.cons_lt_cons_iff.mp h with hlt | ⟨rfl, hrest⟩
      · exact utf8EncodeChar_append_lt hlt _ _
      · exact List.append_left_lt (ih hrest)

/-- The order of the characters is the order of the bytes. -/
theorem bytes_lt_bytes_iff {t u : Text} : bytes t < bytes u ↔ t < u := by
  constructor
  · intro h
    by_contra hn
    rcases List.le_iff_lt_or_eq.mp (List.not_lt.mp hn) with hlt | rfl
    · exact List.lt_asymm h (bytes_lt_bytes hlt)
    · exact List.lt_irrefl _ h
  · exact bytes_lt_bytes

end Migrations.Text
