import ApiClient.TypeExpr

/-!
# Component schemas

The named schemas of a description. A component is a record when it is an object with
properties, an intersection of records, or an alias of a record. References are followed along
aliases and intersections only, and a chain of them that returns to itself is a fault.
-/

namespace ApiClient

/-- A walk along references: the names that were met, in order, also by a walk that failed, and
what it found. A walk fails with the chain of names that returns to itself. -/
structure Walk (α : Type) where
  met : List String
  outcome : Except (List String) α

namespace Walk

def bind {α β : Type} (w : Walk α) (f : α → Walk β) : Walk β :=
  match w.outcome with
  | .ok a => { f a with met := w.met ++ (f a).met }
  | .error chain => { met := w.met, outcome := .error chain }

instance : Monad Walk where
  pure a := { met := [], outcome := .ok a }
  bind := bind

def meet (names : List String) : Walk Unit := { met := names, outcome := .ok () }

def fail {α : Type} (chain : List String) : Walk α := { met := [], outcome := .error chain }

end Walk

abbrev Components := List (String × Schema)

namespace Components

/-- The number of components that a chain has not reached yet. -/
def remaining (components : Components) (chain : List String) : Nat :=
  components.countP fun c => !chain.contains c.1

theorem remaining_append_le (components : Components) (chain : List String) (raw : String) :
    components.remaining (chain ++ [raw]) ≤ components.remaining chain := by
  refine List.countP_mono_left fun c _ h => ?_
  simp_all

theorem remaining_append_lt {components : Components} {chain : List String} {raw : String}
    {schema : Schema} (h : components.lookup raw = some schema) (fresh : raw ∉ chain) :
    components.remaining (chain ++ [raw]) < components.remaining chain := by
  induction components with
  | nil => cases h
  | cons c cs ih =>
    simp only [remaining, List.countP_cons]
    rw [List.lookup_cons] at h
    split at h
    · next same =>
      have := remaining_append_le cs chain raw
      simp only [remaining] at this
      simp only [beq_iff_eq] at same
      subst same
      have now : (!chain.contains c.1) = true := by simpa using fresh
      have later : (!(chain ++ [c.1]).contains c.1) = false := by simp
      rw [if_pos now, later]
      simp only [Bool.false_eq_true, ↓reduceIte]
      omega
    · next other =>
      have := ih h
      simp only [remaining] at this
      have key : (!(chain ++ [raw]).contains c.1) = !chain.contains c.1 := by
        simp only [beq_eq_false_iff_ne, ne_eq] at other
        simp [Ne.symm other]
      rw [key]
      omega

/-- More than twice the size of any component's type. -/
def bulk (components : Components) : Nat :=
  components.foldr (fun c n => 2 * (TypeExpr.ofSchema id c.2).size + 1 + n) 0

theorem size_lt_bulk {components : Components} {raw : String} {schema : Schema}
    (h : components.lookup raw = some schema) :
    2 * (TypeExpr.ofSchema id schema).size < components.bulk := by
  induction components with
  | nil => cases h
  | cons c cs ih =>
    rw [List.lookup_cons] at h
    simp only [bulk, List.foldr_cons]
    split at h
    · cases h
      omega
    · have := ih h
      simp only [bulk] at this
      omega

/-- The work that is left when a chain has grown by a component, whose type has some size. -/
theorem room_lt {components : Components} {chain : List String} {raw : String}
    {schema : Schema} (h : components.lookup raw = some schema) (fresh : raw ∉ chain) {n : Nat}
    (bounded : n < components.bulk) :
    components.remaining (chain ++ [raw]) * components.bulk + n <
      components.remaining chain * components.bulk := by
  have := Nat.mul_le_mul_right components.bulk (remaining_append_lt h fresh)
  rw [Nat.succ_mul] at this
  omega

mutual

/-- The component whose record class a name stands for: itself, or the end of a chain of
aliases. -/
def recordBase (components : Components) (chain : List String) (raw : String) :
    Walk (Option String) :=
  if _fresh : raw ∈ chain then Walk.fail (chain ++ [raw])
  else
    match _known : components.lookup raw with
    | none => pure none
    | some schema => do
      Walk.meet schema.references
      match _shape : (TypeExpr.ofSchema id schema).collapse with
      | .named _ target => recordBase components (chain ++ [raw]) target
      | e =>
        if ← isRecord components (chain ++ [raw]) e then
          Walk.meet [raw]
          return some raw
        else return none
termination_by components.remaining chain * components.bulk
decreasing_by
  · exact room_lt _known _fresh (Nat.zero_lt_of_lt (size_lt_bulk _known))
  · have := (TypeExpr.ofSchema id schema).size_collapse_le
    have := size_lt_bulk _known
    rw [_shape] at *
    exact room_lt _known _fresh (by omega)

/-- Whether an expression is rendered as a record class. -/
def isRecord (components : Components) (chain : List String) (e : TypeExpr) : Walk Bool :=
  match e with
  | .record fields _ => pure !fields.isEmpty
  | .named _ raw => do return (← recordBase components chain raw).isSome
  | .intersection members =>
    if members.all TypeExpr.isAnything then pure false else allRecords components chain members
  | _ => pure false
termination_by components.remaining chain * components.bulk + 2 * e.size
decreasing_by
  · simp [TypeExpr.size]
  · simp [TypeExpr.size]
    omega

/-- Whether all expressions that are not open are records. The first that is none decides. -/
def allRecords (components : Components) (chain : List String) (es : List TypeExpr) : Walk Bool :=
  match es with
  | [] => pure true
  | e :: es =>
    if e.isAnything then allRecords components chain es
    else do
      if ← isRecord components chain e then allRecords components chain es else return false
termination_by components.remaining chain * components.bulk + 2 * TypeExpr.sizeOfAll es + 1
decreasing_by
  all_goals
    have := e.size_pos
    simp only [TypeExpr.sizeOfAll]
    omega

end

end Components

end ApiClient
