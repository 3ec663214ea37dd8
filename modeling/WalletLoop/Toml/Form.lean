namespace WalletLoop.Toml

inductive Form where
  | basic
  | literal
  | basicLines
  | literalLines
deriving DecidableEq

def isBare (c : Char) : Bool :=
  ('A' ≤ c && c ≤ 'Z') || ('a' ≤ c && c ≤ 'z') || ('0' ≤ c && c ≤ '9') || c == '_' || c == '-'

end WalletLoop.Toml
