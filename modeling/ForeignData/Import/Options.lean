import ForeignData.Option.Basic

/-!
# Options of an import

An import may copy default values, and it may leave out that columns are not null. Options are read
in order, and of repeated ones the last counts.
-/

namespace ForeignData

/-- What an import copies besides names and types. -/
structure ImportOptions where
  withDefaults : Bool
  withNotNull : Bool
  deriving DecidableEq

namespace ImportOptions

/-- Without options, defaults are not copied and columns that are not null are. -/
def standard : ImportOptions where
  withDefaults := false
  withNotNull := true

def names : List String :=
  ["import_default", "import_not_null"]

def set (options : ImportOptions) (name value : String) : Except Fault ImportOptions :=
  match name with
  | "import_default" => (readOptionBool name value).map fun b => { options with withDefaults := b }
  | "import_not_null" => (readOptionBool name value).map fun b => { options with withNotNull := b }
  | _ => .error (.invalidOption name names)

/-- Read options onto those already read. -/
def setAll (options : ImportOptions) : OptionList → Except Fault ImportOptions
  | [] => .ok options
  | (name, value) :: rest => do
    let options ← options.set name value
    options.setAll rest

def ofList (list : OptionList) : Except Fault ImportOptions :=
  standard.setAll list

end ImportOptions

end ForeignData
