import ForeignData.Change.Basic
import ForeignData.Scan.Basic

/-!
# Sessions

A session holds scans and changes under names, over one world. Whichever of them acts does so
besides the statements that all the others hold at that time.
-/

namespace ForeignData

/-- Scans and changes under names, with the world that they act on. -/
structure Session (σ τ : Type) where
  world : σ
  scans : List (String × ForeignScan τ)
  changes : List (String × ForeignChange τ)

namespace Session

variable {σ κ τ : Type}

def new (world : σ) : Session σ τ where
  world
  scans := []
  changes := []

def scan? (s : Session σ τ) (name : String) : Option (ForeignScan τ) :=
  s.scans.lookup name

def change? (s : Session σ τ) (name : String) : Option (ForeignChange τ) :=
  s.changes.lookup name

def dropScan (s : Session σ τ) (name : String) : Session σ τ :=
  { s with scans := s.scans.filter (·.1 != name) }

def dropChange (s : Session σ τ) (name : String) : Session σ τ :=
  { s with changes := s.changes.filter (·.1 != name) }

def putScan (s : Session σ τ) (name : String) (scan : ForeignScan τ) : Session σ τ :=
  { s with scans := (name, scan) :: (s.dropScan name).scans }

def putChange (s : Session σ τ) (name : String) (change : ForeignChange τ) : Session σ τ :=
  { s with changes := (name, change) :: (s.dropChange name).changes }

def statements (s : Session σ τ) : List τ :=
  (s.scans.filterMap fun (_, scan) => scan.statement?)
    ++ s.changes.filterMap fun (_, change) => change.statement?

variable (e : Engine σ κ τ)

def worldBesides (s : Session σ τ) : σ :=
  e.besides s.statements s.world

def onScan? {β : Type} (s : Session σ τ) (name : String)
    (act : ForeignScan τ × σ → β × (ForeignScan τ × σ)) : Option (β × Session σ τ) :=
  (s.scan? name).map fun scan =>
    let (result, scan, world) := act (scan, (s.dropScan name).worldBesides e)
    (result, { s with world }.putScan name scan)

def onChange? {β : Type} (s : Session σ τ) (name : String)
    (act : ForeignChange τ × σ → β × (ForeignChange τ × σ)) : Option (β × Session σ τ) :=
  (s.change? name).map fun change =>
    let (result, change, world) := act (change, (s.dropChange name).worldBesides e)
    (result, { s with world }.putChange name change)

def explainScan? (s : Session σ τ) (name : String) (verbose : Bool) :
    Option (Except Fault (List Property) × Session σ τ) :=
  (s.scan? name).map fun scan =>
    let (result, world) := (scan.explain e verbose).run (s.worldBesides e)
    (result, { s with world })

@[simp] theorem scan?_putScan (s : Session σ τ) (name : String) (scan : ForeignScan τ) :
    (s.putScan name scan).scan? name = some scan := by
  simp [scan?, putScan]

@[simp] theorem change?_putChange (s : Session σ τ) (name : String) (change : ForeignChange τ) :
    (s.putChange name change).change? name = some change := by
  simp [change?, putChange]

end Session

end ForeignData
