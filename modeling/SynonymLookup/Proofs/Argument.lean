import SynonymLookup.Proofs.Lookup.ByName

/-! An argument and a lookup by name. The argument is settled by its labels if one of those entities
may be seen, and no entity is looked at twice in a lookup; still both agree, as what comes first in
a list of ids comes first when each id is kept once. -/

namespace SynonymLookup

def ArgumentOptions.nameOf (o : ArgumentOptions) (argument : String) : String :=
  if o.transform then Text.replaceChar '-' ' ' argument else argument

namespace Argument

open Service Lookup

variable {s : Service} {entityType : String} {mayAccess : Entity → Bool}

def isAccessible (s : Service) (entityType : String) (mayAccess : Entity → Bool)
    (id : EntityId) : Bool :=
  (s.store.load entityType id).any mayAccess

theorem firstAccessible_on (built : s.store.Built) (up : s.Up .load) (ids : List EntityId) :
    (firstAccessible entityType mayAccess ids).on s =
      (.ok (ids.find? (isAccessible s entityType mayAccess)), s) := by
  induction ids with
  | nil => rfl
  | cons id rest ih =>
    have hask : (ask fun b => b.load entityType id).on s =
        (.ok (s.store.load entityType id), s) := by
      rw [ask, Step.on_read, Backend.load_of_up up]
      rfl
    rw [firstAccessible, Step.on_bind_ok hask]
    cases he : s.store.load entityType id with
    | none =>
      have hmissing : isAccessible s entityType mayAccess id = false := by
        rw [isAccessible, he, Option.any_none]
      rw [List.find?_cons_of_neg (by simp [hmissing])]
      exact ih
    | some e =>
      have hown : e.id = id := (built.consistent.id_of_load he).2
      have haccess : isAccessible s entityType mayAccess id = mayAccess e := by
        rw [isAccessible, he, Option.any_some]
      cases hseen : mayAccess e with
      | true =>
        rw [List.find?_cons_of_pos (haccess.trans hseen)]
        simp only [hseen, if_true, hown, Step.on_pure]
      | false =>
        rw [List.find?_cons_of_neg (by simp [haccess, hseen])]
        simpa only [hseen, Bool.false_eq_true, if_false] using ih

theorem steady_firstAccessible (entityType : String) (mayAccess : Entity → Bool)
    (ids : List EntityId) : Step.Steady s.Alike (firstAccessible entityType mayAccess ids) := by
  induction ids with
  | nil => exact .pure none
  | cons id rest ih =>
    refine (steady_ask fun _ => rfl).bind fun found => ?_
    cases found with
    | none => exact ih
    | some e => exact .ite (.pure _) ih

theorem resolve_eq (entityType : String) {options : ArgumentOptions}
    (hbundles : options.bundles = []) (mayAccess : Entity → Bool) (argument : String) :
    resolve entityType options mayAccess argument = (do
      let t ← Service.entityType entityType
      let byLabel ← labelled t entityType (options.nameOf argument) none
      match ← firstAccessible entityType mayAccess byLabel with
      | some id => return some id
      | none =>
        let found ← findSynonyms
          (Condition.onSynonym .equal (.string (options.nameOf argument))) entityType none
        firstAccessible entityType mayAccess (found.map (·.entityId))) := by
  unfold resolve
  rw [hbundles]
  rfl

theorem steady_settle (registry : s.registry = Registry.builtin) (condition : Condition)
    (entityType : String) (mayAccess : Entity → Bool) (labelled : List EntityId) :
    Step.Steady s.Alike (do
      match ← firstAccessible entityType mayAccess labelled with
      | some id => return some id
      | none =>
        let found ← findSynonyms condition entityType none
        firstAccessible entityType mayAccess (found.map (·.entityId))) := by
  refine (steady_firstAccessible entityType mayAccess labelled).bind fun first => ?_
  cases first with
  | some id => exact .pure _
  | none =>
    exact (steady_findSynonyms registry condition entityType none).bind fun _ =>
      steady_firstAccessible entityType mayAccess _

theorem steady_resolve (registry : s.registry = Registry.builtin) {options : ArgumentOptions}
    (hbundles : options.bundles = []) (argument : String) :
    Step.Steady s.Alike (resolve entityType options mayAccess argument) := by
  rw [resolve_eq entityType hbundles]
  exact (steady_entityType entityType).bind fun t =>
    (steady_labelled t entityType _ none).bind fun labels =>
    steady_settle registry _ entityType mayAccess labels

/-- Of what a lookup joins, the accessible entity that comes first settles the argument. -/
theorem settle_fst (registry : s.registry = Registry.builtin) (built : s.store.Built)
    (up : s.Up .load) {condition : Condition} {found : List SynonymResult}
    (hfind : ((findSynonyms condition entityType none).on s).1 = .ok found)
    (labels : List EntityId) : ((do
      match ← firstAccessible entityType mayAccess labels with
      | some id => return some id
      | none =>
        let found ← findSynonyms condition entityType none
        firstAccessible entityType mayAccess (found.map (·.entityId)) :
        Action (Option EntityId)).on s).1 =
      .ok ((labels ++ found.map (·.entityId)).find? (isAccessible s entityType mayAccess)) := by
  rw [Step.on_bind_ok (firstAccessible_on built up labels), List.find?_append]
  cases labels.find? (isAccessible s entityType mayAccess) with
  | some id => rfl
  | none =>
    dsimp only
    rw [(steady_findSynonyms registry condition entityType none).on_bind_fst .refl
      (fun _ => steady_firstAccessible entityType mayAccess _) hfind, firstAccessible_on built up]
    rfl

/-- Without bundles to search, an argument is the first accessible entity of those that a lookup of
its name gives, and none if none is accessible. It is so before and after the lookup. -/
theorem resolve_eq_first_of_byName (registry : s.registry = Registry.builtin)
    (built : s.store.Built) (up : s.Up .load) {options : ArgumentOptions}
    (hbundles : options.bundles = []) {argument : String}
    {ids : List EntityId} {s' : Service}
    (hlookup : (byName entityType (options.nameOf argument) none).on s = (.ok ids, s')) :
    ((resolve entityType options mayAccess argument).on s).1 =
        .ok (ids.find? fun id => (s.store.load entityType id).any mayAccess) ∧
      ((resolve entityType options mayAccess argument).on s').1 =
        .ok (ids.find? fun id => (s.store.load entityType id).any mayAccess) := by
  have hafter : s.Alike s' := by
    have hstays := (steady_byName registry entityType (options.nameOf argument) none).stays
      Alike.refl
    rwa [hlookup] at hstays
  obtain ⟨t, labels, found, ht, hlabels, hfind, rfl⟩ :=
    exists_of_byName registry (congrArg Prod.fst hlookup)
  have hknown : ((Service.entityType entityType).on s).1 = .ok t := by rw [entityType_of_some ht]
  have hresolve : ((resolve entityType options mayAccess argument).on s).1 = .ok
      ((distinct (labels ++ found.map (·.entityId))).find?
        (isAccessible s entityType mayAccess)) := by
    rw [resolve_eq entityType hbundles, (steady_entityType entityType).on_bind_fst .refl
        (fun t => (steady_labelled t entityType _ none).bind fun labels =>
          steady_settle registry _ entityType mayAccess labels) hknown,
      (steady_labelled t entityType _ none).on_bind_fst .refl
        (fun labels => steady_settle registry _ entityType mayAccess labels) hlabels,
      settle_fst registry built up hfind, find?_distinct]
  exact ⟨hresolve, ((steady_resolve registry hbundles argument).same .refl hafter).trans hresolve⟩

/-- Two foxes, of which the first has its label for an alias too. -/
def redFoxStore : Store :=
  let node : EntityType :=
    { id := "node", keys := { bundle := some "type", label := some "title" } }
  let fox : Entity :=
    { entityType := "node", bundle := "animal", id := ⟨"1"⟩, label := some "Red Fox" }
  let vixen : Entity :=
    { entityType := "node", bundle := "animal", id := ⟨"2"⟩, label := some "Vixen" }
  (((((({} : Store).mapSchema (·.insertEntityType node)).mapSchema
    (·.insertBundle "node" ⟨"animal", "Animal"⟩)).mapSchema
    (·.insertField "node" "animal" { name := "alias", fieldType := "string" })).insertEntity
    (fox.withValues "alias" [.string "red fox"])).insertEntity
    (vixen.withValues "alias" [.string "RED FOX"]))

def redFoxService : Service :=
  let c : Configuration := { id := "alias", plugin := "field:node.animal.alias" }
  { backend := { store := redFoxStore }, blobs := KeyMap.empty.insert c.key c.toJson }

theorem resolve_eq_first_of_byName_red_fox :
    ((byName "node" "red fox" none).on redFoxService).1 = .ok [⟨"1"⟩, ⟨"2"⟩] ∧
    ((resolve "node" { transform := true } (fun _ => true) "red-fox").on redFoxService).1 =
      .ok (some ⟨"1"⟩) ∧
    ((resolve "node" { transform := true } (fun e => e.label == some "Vixen") "red-fox").on
      redFoxService).1 = .ok (some ⟨"2"⟩) ∧
    ((resolve "node" { transform := true } (fun _ => false) "red-fox").on redFoxService).1 =
      .ok none := by
  have built : redFoxService.store.Built := .insertEntity _ (.insertEntity _ (.insertField _ _ _
    (.insertBundle _ _ (.insertEntityType _ .empty))))
  have hname : ArgumentOptions.nameOf { transform := true } "red-fox" = "red fox" := by
    decide +kernel
  have hids : ((byName "node" "red fox" none).on redFoxService).1 = .ok [⟨"1"⟩, ⟨"2"⟩] := by
    decide +kernel
  have hlookup : (byName "node" (ArgumentOptions.nameOf { transform := true } "red-fox") none).on
      redFoxService = (.ok [⟨"1"⟩, ⟨"2"⟩],
        ((byName "node" "red fox" none).on redFoxService).2) := by
    rw [hname]
    exact Step.on_eq_of_fst hids
  have hfirst (mayAccess : Entity → Bool) :
      ((resolve "node" { transform := true } mayAccess "red-fox").on redFoxService).1 =
        .ok ([⟨"1"⟩, ⟨"2"⟩].find? fun id => (redFoxService.store.load "node" id).any mayAccess) :=
    (resolve_eq_first_of_byName rfl built rfl rfl hlookup).1
  refine ⟨hids, ?_, ?_, ?_⟩
  · rw [hfirst]
    decide +kernel
  · rw [hfirst]
    decide +kernel
  · rw [hfirst]
    decide +kernel

end Argument
end SynonymLookup
