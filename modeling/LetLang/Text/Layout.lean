namespace LetLang.Layout

def indent (depth : Nat) : String :=
  "".pushn ' ' (4 * depth)

def entry (depth : Nat) (text : String) : String :=
  indent depth ++ text ++ ",\n"

def entries (depth : Nat) (texts : List String) : String :=
  String.join (texts.map (entry depth))

def record (depth : Nat) (name : String) (fields : List (String × String)) : String :=
  name ++ " \x7b\n" ++ entries (depth + 1) (fields.map fun f => f.1 ++ ": " ++ f.2) ++
    indent depth ++ "\x7d"

def wrapped (depth : Nat) (name : String) (content : String) : String :=
  name ++ "(\n" ++ entry (depth + 1) content ++ indent depth ++ ")"

def sequence (depth : Nat) (items : List String) : String :=
  if items.isEmpty then "[]" else "[\n" ++ entries (depth + 1) items ++ indent depth ++ "]"

end LetLang.Layout
