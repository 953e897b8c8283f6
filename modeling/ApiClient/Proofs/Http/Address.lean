import ApiClient.Http.Request
import ApiClient.Proofs.Text.Percent
import Mathlib.Data.List.DropRight

/-!
# Addresses

The address of a request is the base without its trailing slashes, the pathname, and a query if
there are search parameters. An encoded text has neither of the two separators of a query. So a
query comes apart where it was joined, and the search parameters are read back from it, with their
order, repetitions and empty texts.
-/

namespace ApiClient.Http

open Text

/-! ## Reading a query -/

/-- The two sides of a part, which its first equality sign separates. -/
def readPart? (part : List Char) : Option (String × String) :=
  match part.dropWhile (· != '=') with
  | [] => none
  | _ :: rest => do
    let name ← percentDecode? (part.takeWhile (· != '='))
    let v ← percentDecode? rest
    return (String.ofList name, String.ofList v)

/-- The search parameters that a query stands for. -/
def readQuery? (query : List Char) : Option (List (String × String)) :=
  (query.splitOn '&').mapM readPart?

/-- Two texts of characters as a search parameter. -/
def searchParam (param : String × String) : Value × Value :=
  (.text (kept param.1), .text (kept param.2))

/-- A search parameter in a query. -/
def encodedParam (param : String × String) : List Char :=
  percentEncode param.1.toList ++ '=' :: percentEncode param.2.toList

theorem queryPart_searchParam (param : String × String) :
    Request.queryPart (searchParam param).1 (searchParam param).2 = encodedParam param := by
  have hchars (s : String) : chars (kept s).toList = s.toList := by
    rw [kept, String.toList_ofList, chars_keep]
  simp only [Request.queryPart, searchParam, Value.plain, hchars, encodedParam]

theorem equals_not_mem_percentEncode (cs : List Char) : '=' ∉ percentEncode cs :=
  not_mem_percentEncode (by decide) (by decide) cs

theorem ampersand_not_mem_encodedParam (param : String × String) : '&' ∉ encodedParam param := by
  have hside (cs : List Char) : '&' ∉ percentEncode cs :=
    not_mem_percentEncode (by decide) (by decide) cs
  simp [encodedParam, hside]

/-- The first equality sign of a part is the one between its sides. -/
theorem readPart?_encodedParam (param : String × String) :
    readPart? (encodedParam param) = some param := by
  have hname : ∀ c ∈ percentEncode param.1.toList, (c != '=') = true := fun c hc ↦
    bne_iff_ne.2 fun hsign ↦ equals_not_mem_percentEncode _ (hsign ▸ hc)
  have htake : (encodedParam param).takeWhile (· != '=') = percentEncode param.1.toList := by
    rw [encodedParam, List.takeWhile_append_of_pos hname, List.takeWhile_cons_of_neg (by decide),
      List.append_nil]
  have hdrop : (encodedParam param).dropWhile (· != '=') = '=' :: percentEncode param.2.toList := by
    rw [encodedParam, List.dropWhile_append_of_pos hname, List.dropWhile_cons_of_neg (by decide)]
  unfold readPart?
  rw [hdrop, htake]
  simp only [percentDecode?_percentEncode, Option.bind_eq_bind, Option.bind_some,
    String.ofList_toList, Option.pure_def]

/-- What was joined of at least one search parameter is read back. -/
theorem readQuery?_join {params : List (String × String)} (h : params ≠ []) :
    readQuery? (join ['&'] (params.map encodedParam)) = some params := by
  have hparts : ∀ part ∈ params.map encodedParam, '&' ∉ part := by
    intro part hpart
    obtain ⟨param, -, rfl⟩ := List.mem_map.1 hpart
    exact ampersand_not_mem_encodedParam param
  have hsplit : (join ['&'] (params.map encodedParam)).splitOn '&' = params.map encodedParam :=
    List.splitOn_intercalate '&' hparts (by simpa using h)
  calc readQuery? (join ['&'] (params.map encodedParam))
      = (params.map encodedParam).mapM readPart? := by rw [readQuery?, hsplit]
    _ = params.mapM fun param ↦ pure param := by
      rw [List.mapM_map]
      simp only [Function.comp_def, readPart?_encodedParam, Option.pure_def]
    _ = some params := by rw [List.mapM_pure, List.map_id', Option.pure_def]

/-! ## Addresses -/

/-- What follows the pathname of an address: nothing where there are no search parameters, and
otherwise a query from which they are read back. -/
def Recounts (params : List (String × String)) (rest : List Char) : Prop :=
  if params = [] then rest = [] else ∃ query, rest = '?' :: query ∧ readQuery? query = some params

theorem recounts_query (r : Request) (params : List (String × String)) :
    Recounts params (Request.query { r with searchParams := params.map searchParam }) := by
  unfold Recounts Request.query
  by_cases hparams : params = []
  · rw [if_pos hparams, hparams]
    rfl
  · have hparts {write : Value × Value → List Char}
        (hwrite : ∀ param, write (searchParam param) = encodedParam param) :
        (params.map searchParam).map write = params.map encodedParam := by
      rw [List.map_map]
      exact List.map_congr_left fun param _ ↦ hwrite param
    have hsome : (params.map searchParam).isEmpty = false := by simpa using hparams
    rw [if_neg hparams, hsome, if_neg Bool.false_ne_true, hparts]
    · exact ⟨_, rfl, readQuery?_join hparams⟩
    · exact queryPart_searchParam

/-- What is trimmed at the end of a text is a row of what is trimmed, and what is left does not end
with it. -/
theorem exists_trimEndWhile (c : Char) (cs : List Char) :
    ∃ n, cs = trimEndWhile (· = c) cs ++ List.replicate n c ∧
      (trimEndWhile (· = c) cs).getLast? ≠ some c := by
  have htrimmed : cs.rtakeWhile (· = c) = List.replicate (cs.rtakeWhile (· = c)).length c :=
    List.eq_replicate_of_mem fun d hd ↦ by simpa using List.mem_rtakeWhile_imp hd
  refine ⟨(cs.rtakeWhile (· = c)).length, ?_, fun hlast ↦ ?_⟩
  · calc cs = cs.rdropWhile (· = c) ++ cs.rtakeWhile (· = c) :=
          List.rdropWhile_append_rtakeWhile.symm
      _ = trimEndWhile (· = c) cs ++ List.replicate (cs.rtakeWhile (· = c)).length c :=
          congrArg _ htrimmed
  · obtain ⟨hsome, hend⟩ := List.mem_getLast?_eq_getLast hlast
    exact List.rdropWhile_last_not (· = c) cs hsome (decide_eq_true hend.symm)

/-- An address is the base without its trailing slashes, the pathname, and what recounts the search
parameters: they may be any texts, none of their characters gets lost or is taken for a mark of the
query. -/
theorem address_recounts (basePath : String) (r : Request) (params : List (String × String)) :
    ∃ (base rest : List Char) (slashes : ℕ),
      basePath.toList = base ++ List.replicate slashes '/' ∧ base.getLast? ≠ some '/' ∧
      (Request.address basePath { r with searchParams := params.map searchParam }).toList =
        base ++ r.pathname.toList ++ rest ∧
      Recounts params rest := by
  obtain ⟨slashes, hbase, hlast⟩ := exists_trimEndWhile '/' basePath.toList
  refine ⟨_, _, slashes, hbase, hlast, ?_, recounts_query r params⟩
  rw [Request.address, String.toList_ofList]

example : Request.address "https://pets/v1//"
      { pathname := "/pets", method := "get",
        searchParams := [("q", "a b"), ("tag", "x&y=ä"), ("tag", ""), ("q", "a b")] } =
    "https://pets/v1/pets?q=a%20b&tag=x%26y%3D%C3%A4&tag=&q=a%20b" := by
  decide +kernel

end ApiClient.Http
