import NestedStyles.Table

/-!
# Variables

Tables whose names are variable names, which start with a dollar sign. A value
that starts with one refers to a variable.
-/

namespace NestedStyles

/-- The sign in front of every variable name. -/
def sigil : Char := '$'

/-- A text that refers to a variable. -/
def IsReference (text : String) : Prop := text.toList.head? = some sigil

instance (text : String) : Decidable (IsReference text) :=
  inferInstanceAs (Decidable (_ = _))

/-- The variable name that a text stands for: the text itself if it starts with
the sign, and otherwise the text behind the sign. -/
def withSigil (name : String) : String :=
  if IsReference name then name else sigil.toString ++ name

theorem isReference_withSigil (name : String) : IsReference (withSigil name) := by
  unfold withSigil
  split
  · assumption
  · simp [IsReference]

/-- Values of variables, in order of their first setting. -/
@[ext]
structure Variables extends Table where
  signed : ∀ name ∈ toTable.names, IsReference name
deriving DecidableEq

namespace Variables

/-- No variables. -/
def empty : Variables where
  toTable := ∅
  signed := by
    intro name present
    cases present

instance : EmptyCollection Variables := ⟨empty⟩

/-- Sets a variable, whose name may be given without its sign. -/
def set (bindings : Variables) (name value : String) : Variables where
  toTable := bindings.toTable.insert (withSigil name) value
  signed := by
    intro other present
    rcases Table.mem_names_insert.1 present with present | rfl
    · exact bindings.signed other present
    · exact isReference_withSigil name

/-- Sets variables one after another. -/
def setAll (bindings : Variables) (settings : List (String × String)) : Variables :=
  settings.foldl (fun bindings (name, value) => bindings.set name value) bindings

/-- The variables that a sequence of settings leaves. -/
def ofList (settings : List (String × String)) : Variables := setAll ∅ settings

/-- The variables with those of another table set on top. -/
def override (bindings overrides : Variables) : Variables :=
  bindings.setAll overrides.entries

end Variables

end NestedStyles
