/-!
# Environments

Named texts, each on record as a line: the name, an equals sign, the text.
What a name stands for is what follows it and an equals sign on the first line
that starts so. A name that stands for something keeps it, and later lines are
passed over. No line says where its name ends, so with `A` for `B=c` the name
`A=B` stands for `c`. The empty name stands for nothing.
-/
namespace LayeredMap

structure Environment where
  bindings : List (String × String) := []

namespace Environment

def line (name text : String) : List Char := name.toList ++ '=' :: text.toList

/-- What a line gives to a name. -/
def readLine? (name : String) (line : List Char) : Option String :=
  let start := name.toList ++ ['=']
  if !name.isEmpty && start.isPrefixOf line then some (String.ofList (line.drop start.length))
  else none

def get? (e : Environment) (name : String) : Option String :=
  e.bindings.findSome? fun (n, text) => readLine? name (line n text)

/-- Gives a text to a name that has none. -/
def supply (e : Environment) (name text : String) : Environment :=
  if (e.get? name).isSome then e else { bindings := e.bindings ++ [(name, text)] }

theorem get?_supply {e : Environment} {name : String} (h : e.get? name = none)
    (text k : String) :
    (e.supply name text).get? k = (e.get? k).or (readLine? k (line name text)) := by
  have hs : e.supply name text = { bindings := e.bindings ++ [(name, text)] } := by
    simp [supply, h]
  simp [hs, get?, List.findSome?_append]

/-- A line gives its text to its name. -/
theorem readLine?_line (name text : String) :
    readLine? name (line name text) = if name.isEmpty then none else some text := by
  have h : line name text = (name.toList ++ ['=']) ++ text.toList := by simp [line]
  cases hn : name.isEmpty <;>
    simp [readLine?, h, hn, -List.append_assoc]

example :
    let e : Environment := { bindings := [("A", "B=c"), ("A", "d")] }
    [e.get? "A", e.get? "A=B", e.get? "A=", e.get? "B", e.get? ""] =
      [some "B=c", some "c", none, none, none] := by decide +kernel

end Environment
end LayeredMap
