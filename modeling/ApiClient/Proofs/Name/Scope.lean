import ApiClient.Proofs.Name.Style

/-!
# Scopes

Names are given out in three scopes: the generated module, the methods of a class and the arguments
of a method. Each starts with the keywords among its reserved names and has a style that turns any
text into an identifier, and a suffix keeps it one. So however a scope was used before, what it gives
out can be written as a name. What a method's body mentions is reserved for its arguments as well, so
that no argument hides it.
-/

namespace ApiClient.Name

/-- Where names are given out. -/
inductive Scope where
  | module
  | methods
  | arguments
  deriving DecidableEq

/-- What the text of a method mentions besides its arguments. -/
def bodyNames : List String :=
  ["self", "request", "response", "handle", "json", "httpx", "ApiRequest", "RequestError", "Any"]

theorem bodyNames_subset : bodyNames ⊆ reservedForArguments := by decide

namespace Scope

def reserved : Scope → List String
  | module => Name.reserved
  | methods => reservedForMethods
  | arguments => reservedForArguments

def style : Scope → String → String
  | module => token
  | methods => camel
  | arguments => plain

/-- A scope in which nothing has been named. -/
def registry : Scope → Registry
  | module => .forModule
  | methods => .forMethods
  | arguments => .forArguments

theorem registry_eq (scope : Scope) : scope.registry = .new scope.reserved scope.style := by
  cases scope <;> rfl

theorem isIdentifier_style (scope : Scope) (s : String) : IsIdentifier (scope.style s) := by
  cases scope with
  | module => exact isIdentifier_token s
  | methods => exact isIdentifier_camel s
  | arguments => exact isIdentifier_plain s

theorem keywords_subset (scope : Scope) : keywords ++ softKeywords ⊆ scope.reserved := by
  intro name hname
  cases scope with
  | module | arguments => exact List.mem_append_left _ (List.mem_append_left _ hname)
  | methods =>
    exact List.mem_append_left _ (List.mem_append_left _ (List.mem_append_left _ hname))

/-- After any calls, a name that a scope gives out is an identifier, and not one that was reserved
when the scope was opened. -/
theorem resolve_after (scope : Scope) (calls : List Registry.Call) (raw : String) :
    IsIdentifier ((scope.registry.after calls).resolve raw).1 ∧
      ((scope.registry.after calls).resolve raw).1 ∉ scope.reserved := by
  rw [registry_eq]
  let start := Registry.new scope.reserved scope.style
  have hextends : start.Extends ((start.after calls).resolve raw).2 :=
    (Registry.extends_after start calls).trans (Registry.extends_resolve _ raw)
  have hname := Registry.identifier?_resolve_self (start.after calls) raw
  exact ⟨hextends.isIdentifier scope.isIdentifier_style hname,
    hextends.fresh (Registry.identifier?_new _ _ raw) hname⟩

/-- Whatever was resolved and reserved in a scope before, the name of a text is an identifier and
neither a keyword nor a word that is one in some places. For an argument it is none of the names that
the body of its method uses either. -/
theorem resolve_usable (scope : Scope) (calls : List Registry.Call) (raw : String) :
    IsIdentifier ((scope.registry.after calls).resolve raw).1 ∧
    ((scope.registry.after calls).resolve raw).1 ∉ keywords ∧
    ((scope.registry.after calls).resolve raw).1 ∉ softKeywords ∧
    ((arguments.registry.after calls).resolve raw).1 ∉ bodyNames := by
  obtain ⟨hidentifier, hfree⟩ := scope.resolve_after calls raw
  have hword : ((scope.registry.after calls).resolve raw).1 ∉ keywords ++ softKeywords :=
    fun hmem ↦ hfree (scope.keywords_subset hmem)
  rw [List.mem_append, not_or] at hword
  have hargument := (arguments.resolve_after calls raw).2
  exact ⟨hidentifier, hword.1, hword.2, fun hmem ↦ hargument (bodyNames_subset hmem)⟩

end Scope

end ApiClient.Name
