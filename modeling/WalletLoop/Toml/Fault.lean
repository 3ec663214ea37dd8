namespace WalletLoop.Toml

inductive Fault where
  | malformed
  | tooManyKeys
deriving DecidableEq

def Fault.message : Fault → String
  | .malformed => "TOML parse error"
  | .tooManyKeys => "recursion limit\n"

def wellFormed {α : Type} : Option α → Except Fault α
  | some a => .ok a
  | none => .error .malformed

end WalletLoop.Toml
