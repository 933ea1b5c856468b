import GridironPcl.Decimal

namespace GridironPcl.Cw20

abbrev Ledger := List (String × Nat)

def balanceOf : Ledger → String → Nat
  | [], _ => 0
  | (a, n) :: l, holder => if holder = a then n else balanceOf l holder

def supply : Ledger → Nat
  | [] => 0
  | (_, n) :: l => n + supply l

def setBalance : Ledger → String → Nat → Ledger
  | [], a, n => [(a, n)]
  | (b, m) :: l, a, n => if a = b then (a, n) :: l else (b, m) :: setBalance l a n

/-- Modelled from the spec: `cw20_base`'s `Mint`, `Transfer` and `Burn` (the LP token contract)
are not under src/. Each refuses a zero amount with `InvalidZeroAmount`. -/
def mint (l : Ledger) (recipient : String) (amount : Nat) : Option Ledger :=
  if amount ≠ 0 then some (setBalance l recipient (balanceOf l recipient + amount)) else none

def transfer (l : Ledger) (owner recipient : String) (amount : Nat) : Option Ledger :=
  if amount ≠ 0 ∧ amount ≤ balanceOf l owner then
    let l := setBalance l owner (balanceOf l owner - amount)
    some (setBalance l recipient (balanceOf l recipient + amount))
  else none

def burn (l : Ledger) (owner : String) (amount : Nat) : Option Ledger :=
  if amount ≠ 0 ∧ amount ≤ balanceOf l owner then
    some (setBalance l owner (balanceOf l owner - amount))
  else none

@[simp] theorem balanceOf_setBalance (l : Ledger) (a b : String) (n : Nat) :
    balanceOf (setBalance l a n) b = if b = a then n else balanceOf l b := by
  induction l with
  | nil => simp [setBalance, balanceOf]
  | cons p l ih =>
      obtain ⟨c, m⟩ := p
      by_cases hac : a = c
      · subst hac; by_cases h : b = a <;> simp [setBalance, balanceOf, h]
      · by_cases hbc : b = c
        · subst hbc; simp [setBalance, balanceOf, hac, Ne.symm hac]
        · simp [setBalance, balanceOf, hac, hbc, ih]

theorem supply_setBalance (l : Ledger) (a : String) (n : Nat) :
    supply (setBalance l a n) + balanceOf l a = supply l + n := by
  induction l with
  | nil => simp [setBalance, supply, balanceOf]
  | cons p l ih =>
      obtain ⟨c, m⟩ := p
      by_cases hac : a = c
      · subst hac; simp [setBalance, supply, balanceOf]; omega
      · simp only [setBalance, hac, if_false, supply, balanceOf]
        omega

theorem balanceOf_le_supply (l : Ledger) (a : String) : balanceOf l a ≤ supply l := by
  have := supply_setBalance l a 0
  omega

theorem mint_eq_some {l l' : Ledger} {r : String} {n : Nat} (h : mint l r n = some l') :
    n ≠ 0 ∧ supply l' = supply l + n ∧
      ∀ b, balanceOf l' b = balanceOf l b + if b = r then n else 0 := by
  unfold mint at h
  split_ifs at h with hn
  cases h
  refine ⟨hn, ?_, fun b => ?_⟩
  · have := supply_setBalance l r (balanceOf l r + n)
    omega
  · by_cases hb : b = r <;> simp [hb]

theorem burn_eq_some {l l' : Ledger} {o : String} {n : Nat} (h : burn l o n = some l') :
    n ≠ 0 ∧ n ≤ balanceOf l o ∧ supply l' + n = supply l ∧
      ∀ b, balanceOf l' b + (if b = o then n else 0) = balanceOf l b := by
  unfold burn at h
  split_ifs at h with hn
  cases h
  refine ⟨hn.1, hn.2, ?_, fun b => ?_⟩
  · have := supply_setBalance l o (balanceOf l o - n)
    omega
  · by_cases hb : b = o <;> simp [hb]
    omega

theorem transfer_eq_some {l l' : Ledger} {o r : String} {n : Nat}
    (h : transfer l o r n = some l') :
    n ≠ 0 ∧ n ≤ balanceOf l o ∧ supply l' = supply l ∧
      ∀ b, balanceOf l' b + (if b = o then n else 0) = balanceOf l b + if b = r then n else 0 := by
  unfold transfer at h
  split_ifs at h with hn
  cases h
  refine ⟨hn.1, hn.2, ?_, fun b => ?_⟩
  · have h1 := supply_setBalance l o (balanceOf l o - n)
    have h2 := supply_setBalance (setBalance l o (balanceOf l o - n)) r
      (balanceOf (setBalance l o (balanceOf l o - n)) r + n)
    omega
  · by_cases hbr : b = r <;> by_cases hbo : b = o <;> simp_all

end GridironPcl.Cw20
