import GridironPcl.Decimal

namespace GridironPcl.Assets

open GridironPcl.Decimal

abbrev Addr := String

/-- `gridiron::asset::AssetInfo`: a CW20 token by its contract, or a bank denom. -/
inductive AssetInfo where
  | token (contractAddr : Addr)
  | nativeToken (denom : String)
  deriving DecidableEq, Repr

structure Asset where
  info : AssetInfo
  amount : Nat
  deriving DecidableEq, Repr

structure DecimalAsset where
  info : AssetInfo
  amount : Decimal256
  deriving DecidableEq, Repr

structure Coin where
  denom : String
  amount : Nat
  deriving DecidableEq, Repr

namespace AssetInfo

def equal (a b : AssetInfo) : Bool := a == b

/-- The `Display` of an asset info: the contract address or the denom. -/
def toString : AssetInfo → String
  | token contractAddr => contractAddr
  | nativeToken denom => denom

def withBalance (info : AssetInfo) (amount : Nat) : Asset := ⟨info, amount⟩

@[simp] theorem equal_iff (a b : AssetInfo) : a.equal b = true ↔ a = b := by
  simp [equal]

@[simp] theorem withBalance_info (info : AssetInfo) (amount : Nat) :
    (info.withBalance amount).info = info := rfl

@[simp] theorem withBalance_amount (info : AssetInfo) (amount : Nat) :
    (info.withBalance amount).amount = amount := rfl

end AssetInfo

/-- The `Display` of an asset: the amount followed by the asset. -/
def Asset.toString (a : Asset) : String := Nat.repr a.amount ++ a.info.toString

def Asset.toDecimalAsset (a : Asset) (precision : Nat) : DecimalAsset :=
  ⟨a.info, Decimal256.withPrecision a.amount precision⟩

end GridironPcl.Assets
