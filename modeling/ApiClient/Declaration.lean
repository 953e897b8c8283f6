import ApiClient.Name.Reserved
import ApiClient.Text.Identifier
import ApiClient.Schema

/-!
# Declarations

The types that the generated module declares: record classes, and aliases of any other type.
-/

namespace ApiClient

/-- A record class. A field's type is the text of its annotation. -/
structure RecordClass where
  name : String
  fields : List (Field String)
  bases : List String
  extra : Option String

inductive Declaration where
  | synonym (name hint : String)
  | record (c : RecordClass)

namespace Declaration

def name : Declaration → String
  | synonym name _ => name
  | record c => c.name

/-- The classes that must be declared before. -/
def bases : Declaration → List String
  | synonym _ _ => []
  | record c => c.bases

end Declaration

/-- Whether a class body can hold a field of this name. Names that are no identifiers cannot
stand there, and names that open with two underscores would be changed. -/
def fitsClassBody (name : String) : Bool :=
  Text.isIdentifier name.toList && !Name.keywords.contains name && !name.startsWith "__"

/-- Whether some field name, looked at in order, does not fit a class body. -/
def anyUnfit : List (Field String) → Except Fault Bool
  | [] => .ok false
  | f :: fs =>
    match f.name with
    | .text name => if fitsClassBody name then anyUnfit fs else .ok true
    | _ => .error .noSuchPart

/-- A class with a field that does not fit a class body is declared by a call instead. -/
def RecordClass.functional (c : RecordClass) : Except Fault Bool := anyUnfit c.fields

/-- Declarations in the order of their first appearance, one for each name. -/
abbrev Declarations := List Declaration

namespace Declarations

def find? (ds : Declarations) (name : String) : Option Declaration :=
  List.find? (·.name = name) ds

def contains (ds : Declarations) (name : String) : Bool := List.any ds (·.name = name)

/-- Adds a declaration. One of the same name is replaced in its place. -/
def put (ds : Declarations) (d : Declaration) : Declarations :=
  if ds.contains d.name then List.map (fun c => if c.name = d.name then d else c) ds
  else ds ++ [d]

/-- The number of declarations that are not placed yet. -/
def unplaced (ds : Declarations) (placed : List String) : Nat :=
  List.countP (fun d => !placed.contains d.name) ds

theorem unplaced_cons_le (ds : Declarations) (placed : List String) (name : String) :
    ds.unplaced (name :: placed) ≤ ds.unplaced placed := by
  refine List.countP_mono_left fun d _ h => ?_
  simp_all

theorem unplaced_cons_lt {ds : Declarations} {d : Declaration} (known : d ∈ ds)
    {placed : List String} (fresh : d.name ∉ placed) :
    ds.unplaced (d.name :: placed) < ds.unplaced placed := by
  induction ds with
  | nil => cases known
  | cons c cs ih =>
    simp only [unplaced, List.countP_cons]
    by_cases same : c.name = d.name
    · have := unplaced_cons_le cs placed d.name
      simp only [unplaced] at this
      have now : (!placed.contains c.name) = true := by simpa [same] using fresh
      have later : (!(d.name :: placed).contains c.name) = false := by simp [same]
      rw [if_pos now, later]
      simp only [Bool.false_eq_true, ↓reduceIte]
      omega
    · have inRest : d ∈ cs := by
        rcases List.mem_cons.1 known with rfl | h
        · exact absurd rfl same
        · exact h
      have := ih inRest
      simp only [unplaced] at this
      have key : (!(d.name :: placed).contains c.name) = !placed.contains c.name := by
        simp [same]
      rw [key]
      omega

/-- What has been placed so far: the names, and the declarations in order. -/
structure Placement where
  names : List String
  placed : List Declaration

/-- More than the number of bases of any declaration. -/
def bulk (ds : Declarations) : Nat := List.foldr (fun d n => d.bases.length + 2 + n) 0 ds

theorem length_bases_lt_bulk {ds : Declarations} {d : Declaration} (known : d ∈ ds) :
    d.bases.length + 1 < ds.bulk := by
  induction ds with
  | nil => cases known
  | cons c cs ih =>
    simp only [bulk, List.foldr_cons]
    rcases List.mem_cons.1 known with rfl | h
    · omega
    · have := ih h
      simp only [bulk] at this
      omega

theorem room_lt {a b k m n : Nat} (h : a ≤ b) (h' : m < n) : a * k + m + 1 < b * k + n + 1 := by
  have := Nat.mul_le_mul_right k h
  omega

theorem mem_of_find? {ds : Declarations} {name : String} {d : Declaration}
    (h : ds.find? name = some d) : d ∈ ds := List.mem_of_find?_eq_some h

mutual

/-- Places a declaration, its bases first, unless its name is placed already. -/
def place (ds : Declarations) (d : Declaration) (_known : d ∈ ds) (p : Placement) :
    { q : Placement // ds.unplaced q.names ≤ ds.unplaced p.names } :=
  if _fresh : d.name ∈ p.names then ⟨p, Nat.le_refl _⟩
  else
    let q := placeBases ds d.bases { p with names := d.name :: p.names }
    ⟨{ q.1 with placed := q.1.placed ++ [d] },
      Nat.le_trans q.2 (unplaced_cons_le ds p.names d.name)⟩
termination_by ds.unplaced p.names * ds.bulk
decreasing_by
  have := Nat.mul_le_mul_right ds.bulk (unplaced_cons_lt _known _fresh)
  have := length_bases_lt_bulk _known
  rw [Nat.succ_mul] at *
  omega

/-- Places the declared ones of some bases, in order. -/
def placeBases (ds : Declarations) (bases : List String) (p : Placement) :
    { q : Placement // ds.unplaced q.names ≤ ds.unplaced p.names } :=
  match bases with
  | [] => ⟨p, Nat.le_refl _⟩
  | base :: bases =>
    match found : ds.find? base with
    | none => placeBases ds bases p
    | some d =>
      let q := place ds d (mem_of_find? found) p
      let r := placeBases ds bases q.1
      ⟨r.1, Nat.le_trans r.2 q.2⟩
termination_by ds.unplaced p.names * ds.bulk + bases.length + 1
decreasing_by
  · simp
  · omega
  · exact room_lt q.2 (Nat.lt_succ_self _)

end

/-- Places the declarations of a part of `ds` in order. -/
def placeAll (ds : Declarations) :
    (part : List Declaration) → (∀ d ∈ part, d ∈ ds) → Placement → Placement
  | [], _, p => p
  | d :: part, known, p =>
    placeAll ds part (fun e h => known e (List.mem_cons_of_mem _ h))
      (place ds d (known d List.mem_cons_self) p).1

/-- All declarations, each one after its bases. -/
def ordered (ds : Declarations) : List Declaration :=
  (placeAll ds ds (fun _ h => h) ⟨[], []⟩).placed

end Declarations

end ApiClient
