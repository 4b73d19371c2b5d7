import TransferLifecycle.Text.Quoted

/-! Values written with the names of their parts, on one line or spread over several with
four spaces to a level and a comma after every part. -/
namespace TransferLifecycle.Text

inductive Value where
  | word (text : String)
  | record (name : String) (fields : List (String × Value))
  | tuple (name : String) (parts : List Value)

namespace Value

def string (text : String) : Value := .word (quoted text)

def bool (b : Bool) : Value := .word (toString b)

def nat (n : Nat) : Value := .word (toString n)

def option : Option Value → Value
  | none => .word "None"
  | some v => .tuple "Some" [v]

mutual
def inline : Value → String
  | .word text => text
  | .record name fields => name ++ " \x7b " ++ ", ".intercalate (inlineFields fields) ++ " \x7d"
  | .tuple name parts => name ++ "(" ++ ", ".intercalate (inlineParts parts) ++ ")"

def inlineFields : List (String × Value) → List String
  | [] => []
  | (key, v) :: rest => (key ++ ": " ++ inline v) :: inlineFields rest

def inlineParts : List Value → List String
  | [] => []
  | v :: rest => inline v :: inlineParts rest
end

mutual
/-- Lines after the first carry the margin of the value they belong to. -/
def spread (margin : String) : Value → String
  | .word text => text
  | .record name fields =>
    name ++ " \x7b\n" ++ spreadFields (margin ++ "    ") fields ++ margin ++ "\x7d"
  | .tuple name parts => name ++ "(\n" ++ spreadParts (margin ++ "    ") parts ++ margin ++ ")"

def spreadFields (margin : String) : List (String × Value) → String
  | [] => ""
  | (key, v) :: rest =>
    margin ++ key ++ ": " ++ spread margin v ++ ",\n" ++ spreadFields margin rest

def spreadParts (margin : String) : List Value → String
  | [] => ""
  | v :: rest => margin ++ spread margin v ++ ",\n" ++ spreadParts margin rest
end

end Value

end TransferLifecycle.Text
