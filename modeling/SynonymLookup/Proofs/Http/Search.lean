import SynonymLookup.Http.Lookups
import SynonymLookup.Proofs.Lookup.Answering

/-! The search for a name over the wire. What a query asks for is told before anything is
looked up, and a lookup refuses only an unknown type: whatever is stored, a search is
answered or the client's fault. -/

namespace SynonymLookup
namespace Http

open Service Lookup

namespace Handler

variable {α β : Type}

def on (handler : Handler α) (s : Service) : Except Refusal α × Service := handler.run.run s

theorem on_bind_ok {x : Handler α} {f : α → Handler β} {s t : Service} {a : α}
    (h : x.on s = (.ok a, t)) : (x >>= f).on s = (f a).on t := by
  replace h : x.run.run s = (.ok a, t) := h
  simp only [on, ExceptT.run_bind, StateT.run_bind, h]
  rfl

theorem on_bind_error {x : Handler α} {f : α → Handler β} {s t : Service} {r : Refusal}
    (h : x.on s = (.error r, t)) : (x >>= f).on s = (.error r, t) := by
  replace h : x.run.run s = (.error r, t) := h
  simp only [on, ExceptT.run_bind, StateT.run_bind, h]
  rfl

theorem on_lookingUp (step : Action α) (f : α → β) (s : Service) :
    (do return f (← lookingUp step) : Handler β).on s =
      (((step.on s).1.map f).mapError .lookup, (step.on s).2) := by
  have hlift : on (liftM step.run : Handler (Except LookupError α)) s =
      (.ok (step.on s).1, (step.on s).2) := rfl
  rcases hstep : step.on s with ⟨e | a, t⟩ <;> rw [hstep] at hlift
  · have hrefused : (lookingUp step).on s = (.error (.lookup e), t) := on_bind_ok hlift
    exact on_bind_error hrefused
  · have hfound : (lookingUp step).on s = (.ok a, t) := on_bind_ok hlift
    exact on_bind_ok hfound

end Handler

structure NameQuery where
  entityType : String
  name : String
  bundle : Option String
deriving DecidableEq, Repr

/-- What a query asks a search for, none if a known parameter comes twice or the type or the name is
missing. -/
def NameQuery.ofQuery? (query : String) : Option NameQuery :=
  let p : Parameters := ⟨Text.formPairs query⟩
  if ["entity_type", "bundle", "q"].all fun name => p.pairs.countP (·.1 == name) ≤ 1 then do
    let entityType ← p.get? "entity_type"
    let name ← p.get? "q"
    return { entityType, name, bundle := p.get? "bundle" }
  else none

theorem read_on (known : List String) (query : String) (s : Service) :
    (Parameters.read known query).on s =
      if known.all fun name => (Text.formPairs query).countP (·.1 == name) ≤ 1 then
        (.ok ⟨Text.formPairs query⟩, s)
      else (.error .unreadable, s) := by
  rw [Parameters.read]
  split <;> rfl

theorem require_on (p : Parameters) (name : String) (s : Service) :
    (p.require name).on s = match p.get? name with
      | some value => (.ok value, s)
      | none => (.error (.missingParameter name), s) := by
  rw [Parameters.require]
  cases p.get? name <;> rfl

def sentIds (ids : List EntityId) : Json :=
  Json.ofFields [("entity_ids", .array (ids.map EntityId.toJson))]

theorem search_on (query : String) (s : Service) : match NameQuery.ofQuery? query with
    | none => ∃ r : Refusal, (search query).on s = (.error r, s) ∧ r.status = 400
    | some q => (search query).on s =
      (((byName q.entityType q.name q.bundle).on s).1.map sentIds |>.mapError .lookup,
        ((byName q.entityType q.name q.bundle).on s).2) := by
  have hread := read_on ["entity_type", "bundle", "q"] query s
  have htype := require_on ⟨Text.formPairs query⟩ "entity_type" s
  have hname := require_on ⟨Text.formPairs query⟩ "q" s
  unfold NameQuery.ofQuery? search
  dsimp only
  split at hread
  · rename_i hunrepeated
    rw [if_pos hunrepeated, Handler.on_bind_ok hread]
    cases hentityType : Parameters.get? ⟨Text.formPairs query⟩ "entity_type" with
    | none =>
      rw [hentityType] at htype
      exact ⟨_, Handler.on_bind_error htype, rfl⟩
    | some entityType =>
      rw [hentityType] at htype
      rw [Handler.on_bind_ok htype]
      cases hq : Parameters.get? ⟨Text.formPairs query⟩ "q" with
      | none =>
        rw [hq] at hname
        exact ⟨_, Handler.on_bind_error hname, rfl⟩
      | some name =>
        rw [hq] at hname
        rw [Handler.on_bind_ok hname]
        exact Handler.on_lookingUp _ sentIds s
  · rename_i hrepeated
    rw [if_neg hrepeated]
    exact ⟨_, Handler.on_bind_error hread, rfl⟩

def asksKnown (s : Service) (query : String) : Bool :=
  (NameQuery.ofQuery? query).any fun q => (s.schema.entityType? q.entityType).isSome

variable {s : Service}

theorem status_search (h : s.Ready) (query : String) :
    (Response.ofResult ((search query).on s).1).status =
      if asksKnown s query then 200 else 400 := by
  have hsearch := search_on query s
  unfold asksKnown
  cases hquery : NameQuery.ofQuery? query with
  | none =>
    rw [hquery] at hsearch
    obtain ⟨r, hrefused, hstatus⟩ := hsearch
    rw [hrefused]
    exact hstatus
  | some q =>
    rw [hquery] at hsearch
    have hname := answersFor_byName h q.entityType q.name q.bundle
    unfold AnswersFor at hname
    rw [hsearch]
    cases ht : s.schema.entityType? q.entityType with
    | none =>
      rw [ht] at hname
      simp only [hname, Option.any_some, ht]
      rfl
    | some t =>
      rw [ht] at hname
      obtain ⟨ids, hids⟩ := hname
      simp only [hids, Option.any_some, ht]
      rfl

theorem status_answer {base : BasePath} {address : Address}
    (hroute : Route.ofPath? base address.path = some .search) (method : String) (s : Service) :
    ((answer base method address).run s).1.status =
      if method = "GET" ∨ method = "HEAD" then
        (Response.ofResult ((search address.query).on s).1).status
      else 405 := by
  unfold answer
  rw [hroute]
  by_cases hget : method = "GET"
  · simp only [hget, if_true, true_or]
    rfl
  · by_cases hhead : method = "HEAD"
    · simp only [hhead, if_true, or_true, if_neg (show ¬"HEAD" = "GET" by decide)]
      rfl
    · simp only [hget, hhead, or_self, if_false]
      rfl

/-- Where the providers are built in and the settings can be read, a search for a condition on
synonyms and ids refuses nothing but an unknown type. So does a lookup by name, in every bundle and
in all; and over the wire a search is the client's fault or is answered, never an internal error. -/
theorem lookups_refuse_unknown_types_only (h : s.Ready) :
    (∀ condition entityType bundle, Condition.Askable condition →
      s.AnswersFor entityType ((findSynonyms condition entityType bundle).on s).1) ∧
    (∀ entityType name bundle, s.AnswersFor entityType ((byName entityType name bundle).on s).1) ∧
    ∀ base method address, Route.ofPath? base address.path = some .search →
      ((answer base method address).run s).1.status =
        if method = "GET" ∨ method = "HEAD" then if asksKnown s address.query then 200 else 400
        else 405 := by
  refine ⟨fun _ entityType bundle hc => answersFor_findSynonyms h hc entityType bundle,
    answersFor_byName h, fun _ method _ hroute => ?_⟩
  rw [status_answer hroute, status_search h]

/-- Pages with a field that is called as their label key, and with a reference to users, who are no
known type. -/
def pageStore : Store :=
  let node : EntityType :=
    { id := "node", keys := { id := "nid", bundle := some "type", label := some "title" } }
  let title : Field := { name := "title", fieldType := "string" }
  let page : Entity := { entityType := "node", bundle := "page", id := ⟨"1"⟩, label := some "Owls" }
  (((((({} : Store).mapSchema (·.insertEntityType node)).mapSchema
    (·.insertBundle "node" ⟨"page", "Page"⟩)).mapSchema
    (·.insertField "node" "page" title)).mapSchema
    (·.insertField "node" "page" (Field.reference "author" "Author" "user"))).insertEntity
    ((page.withValues "title" [.string "Strix"]).withValues "author" [.string "7"]))

def pageService : Service :=
  let title : Configuration := { id := "title", plugin := "field:node.page.title" }
  let author : Configuration := { id := "author", plugin := "entity_reference:node.page.author" }
  let gone : Configuration := { id := "gone", plugin := "field:node.page.alias" }
  { backend := { store := pageStore }
    blobs := ((KeyMap.empty.insert title.key title.toJson).insert author.key author.toJson).insert
      gone.key gone.toJson }

theorem ready_pageService : pageService.Ready where
  registry := rfl
  built := .insertEntity _ (.insertField _ _ _ (.insertField _ _ _ (.insertBundle _ _
    (.insertEntityType _ .empty))))
  execute := rfl
  list := rfl
  get := rfl
  wellFormed := by
    unfold WellFormed
    decide +kernel

theorem lookups_refuse_unknown_types_only_page : pageService.Ready ∧
    (∃ found, ((findSynonyms (Condition.onSynonym .like (.string "%s%")) "node" none).on
      pageService).1 = .ok found) ∧
    (∃ ids, ((byName "node" "strix" (some "page")).on pageService).1 = .ok ids) ∧
    ((byName "user" "Ann" none).on pageService).1 = .error (.unknownEntityType "user") ∧
    ((answer ⟨""⟩ "GET" ⟨"/search", "entity_type=node&q=strix"⟩).run pageService).1.status = 200 ∧
    ((answer ⟨""⟩ "GET" ⟨"/search", "entity_type=user&q=Ann"⟩).run pageService).1.status = 400 := by
  have hpattern : Condition.Askable (Condition.onSynonym .like (.string "%s%")) := by
    constructor <;> simp [Condition.onSynonym, Condition.compare, Column.isPlaceholder,
      Operator.Takes, Operator.takesList, Json.text?]
  have hroute : Route.ofPath? ⟨""⟩ "/search" = some .search := by decide +kernel
  have hknown : asksKnown pageService "entity_type=node&q=strix" = true := by decide +kernel
  have hunknown : asksKnown pageService "entity_type=user&q=Ann" = false := by decide +kernel
  obtain ⟨hfind, hname, hsearch⟩ := lookups_refuse_unknown_types_only ready_pageService
  refine ⟨ready_pageService, hfind _ "node" none hpattern, hname "node" "strix" (some "page"),
    hname "user" "Ann" none, ?_, ?_⟩
  · rw [hsearch ⟨""⟩ "GET" ⟨"/search", "entity_type=node&q=strix"⟩ hroute, hknown]
    rfl
  · rw [hsearch ⟨""⟩ "GET" ⟨"/search", "entity_type=user&q=Ann"⟩ hroute, hunknown]
    rfl

end Http
end SynonymLookup
