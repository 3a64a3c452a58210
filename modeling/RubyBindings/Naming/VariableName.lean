/-
Module: RubyBindings.Naming.VariableName
Purpose: Variable names made from C++ type names. The markers of a type name, read from left to
  right, become underscores: `::`, `<` and `>` give `_`, and `*` gives `_ptr_`. A marker directly
  after another one shares its underscore, so it gives up its own leading one.
Main exports: variableNameList, variableName
-/

namespace RubyBindings.Naming

/-- Variable name of a character list. `joined` says that a marker was read directly before, whose
underscore the next marker shares. -/
def variableNameFrom (joined : Bool) : List Char → List Char
  | [] => []
  | ':' :: ':' :: rest => (if joined then [] else ['_']) ++ variableNameFrom true rest
  | '<' :: rest => (if joined then [] else ['_']) ++ variableNameFrom true rest
  | '>' :: rest => (if joined then [] else ['_']) ++ variableNameFrom true rest
  | '*' :: rest =>
    (if joined then [] else ['_']) ++ ['p', 't', 'r', '_'] ++ variableNameFrom true rest
  | character :: rest => character :: variableNameFrom false rest

/-- Variable name of a type name given as characters. -/
def variableNameList (typeName : List Char) : List Char :=
  variableNameFrom false typeName

/-- Variable name of a type name: `Foo::Bar<Baz>*` gives `Foo_Bar_Baz_ptr_`. -/
def variableName (typeName : String) : String :=
  String.ofList (variableNameList typeName.toList)

end RubyBindings.Naming
