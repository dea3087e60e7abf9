import SynonymLookup.Proofs.Behavior
import SynonymLookup.Proofs.Lookup.Alike
import SynonymLookup.Proofs.Provider.Batch
import SynonymLookup.Select

/-! The synonyms of entities of one bundle as a select shows them. They are extracted for
all entities at once, configuration by configuration, and each entity gets what is gathered
for it alone, with wordings. -/

namespace SynonymLookup

theorem Backend.synonymsOfAll_asked {s : Schema} {plugin : String}
    {settings : ProviderConfiguration} {p : Provider}
    (h : Registry.builtin.create s plugin settings = .ok p) (b : Backend) (n : Nat) :
    p.synonymsOfAll (b.asked n) = p.synonymsOfAll b := by
  obtain ⟨base, hbase, d, -, -, rfl⟩ := Registry.create_eq_ok h
  rcases Registry.mem_builtin.1 hbase with rfl | rfl | rfl <;> rfl

namespace Select

open Service Repository

variable {s : Service} {c : Configuration} {e : Entity} {entities : KeyMap Entity}
  {found found' : KeyMap (List SynonymWording)}

def wordingOf (s : Service) (e : Entity) (c : Configuration) (synonym : String) : SynonymWording :=
  ⟨synonym, ((Wording.present synonym e c Behavior.select.id).on s).1.toOption.getD ""⟩

def wordedBy (s : Service) (e : Entity) (c : Configuration) : List SynonymWording :=
  match c.provider s.registry s.schema with
  | .error _ => []
  | .ok p => (p.synonyms s.backend e).map (wordingOf s e c)

/-- The worded synonyms of an entity, none where select is switched off for its bundle. -/
def worded (s : Service) (e : Entity) : List SynonymWording :=
  if Behaviors.isOn s Behavior.select.id e.entityType e.bundle then
    (s.configurationsOf e.entityType e.bundle).flatMap (wordedBy s e)
  else []

theorem map_synonym_wordedBy (s : Service) (e : Entity) (list : List Configuration) :
    (list.flatMap (wordedBy s e)).map (·.synonym) = Lookup.gathered s e list := by
  rw [List.map_flatMap, Lookup.gathered]
  refine List.flatMap_congr fun c _ => ?_
  rw [wordedBy]
  cases c.provider s.registry s.schema with
  | error e => rfl
  | ok p => simp [wordingOf, Function.comp_def]

section Steady

theorem steady_presentAll (c : Configuration) (e : Entity) (l : List String) :
    Step.Steady s.Alike (presentAll c e l) := by
  induction l with
  | nil => exact .pure []
  | cons synonym rest ih => exact (steady_present _ _ _ _).bind fun _ => ih.bind fun _ => .pure _

theorem steady_addEach (c : Configuration) (entities : KeyMap Entity)
    (found : KeyMap (List SynonymWording)) (l : List (String × List String)) :
    Step.Steady s.Alike (addEach c entities found l) := by
  induction l generalizing found with
  | nil => exact .pure found
  | cons x rest ih =>
    rw [addEach]
    cases entities.get? x.1 with
    | none => exact ih found
    | some e => exact (steady_presentAll c e x.2).bind fun _ => ih _

theorem steady_addFrom (registry : s.registry = Registry.builtin) (entities : KeyMap Entity)
    (found : KeyMap (List SynonymWording)) (list : List Configuration) :
    Step.Steady s.Alike (addFrom entities found list) := by
  induction list generalizing found with
  | nil => exact .pure found
  | cons c rest ih =>
    refine .get (fun {u u'} hu hu' => ?_) fun {u} hu => ?_
    · rw [hu.registry, hu.schema, hu'.registry, hu'.schema]
      cases hp : c.provider s.registry s.schema with
      | error _ => rfl
      | ok p =>
        obtain ⟨n, hn⟩ := hu.backend
        obtain ⟨n', hn'⟩ := hu'.backend
        rw [Configuration.provider, registry] at hp
        simp only [hn, hn', Backend.synonymsOfAll_asked hp]
    · cases c.provider u.registry u.schema with
      | error _ => exact ih found
      | ok p =>
        exact (Step.Steady.ofExcept _).bind fun _ => (steady_addEach c entities found _).bind ih

theorem steady_synonymsOfAll (registry : s.registry = Registry.builtin) (entities : KeyMap Entity) :
    Step.Steady s.Alike (synonymsOfAll entities) := by
  unfold synonymsOfAll
  split
  · exact .pure _
  · exact (Step.Steady.ofExcept _).bind fun _ => (sameSettings_alike.isEnabled _ _ _).bind fun _ =>
      .ite ((steady_loadFor _ _).bind fun list => steady_addFrom registry entities _ list) (.pure _)

end Steady

theorem of_presentAll {l : List String} {wordings : List SynonymWording}
    (h : ((presentAll c e l).on s).1 = .ok wordings) : wordings = l.map (wordingOf s e c) := by
  induction l generalizing wordings with
  | nil =>
    cases h
    rfl
  | cons synonym rest ih =>
    obtain ⟨wording, hwording, hrest⟩ := (steady_present _ _ _ _).exists_of_on_bind_fst .refl
      (fun _ => (steady_presentAll c e rest).bind fun _ => .pure _) h
    obtain ⟨later, hlater, hall⟩ := (steady_presentAll c e rest).exists_of_on_bind_fst .refl
      (fun _ => .pure _) hrest
    have hown : wordingOf s e c synonym = ⟨synonym, wording⟩ := by
      rw [wordingOf, hwording]
      rfl
    cases hall
    rw [ih hlater, List.map_cons, hown]

theorem of_addEach {l : List (String × List String)} (hkeys : l.Pairwise fun x y => x.1 < y.1)
    (h : ((addEach c entities found l).on s).1 = .ok found') {id : String}
    (he : entities.get? id = some e) : (found'.get? id).getD [] =
      (found.get? id).getD [] ++ ((KeyMap.findEntry id l).getD []).map (wordingOf s e c) := by
  induction l generalizing found with
  | nil =>
    cases h
    simp [KeyMap.findEntry]
  | cons x rest ih =>
    obtain ⟨key, texts⟩ := x
    rw [List.pairwise_cons] at hkeys
    rw [addEach] at h
    by_cases hkey : key = id
    · subst hkey
      simp only [he] at h
      obtain ⟨wordings, hwordings, hrest⟩ :=
        (steady_presentAll c e texts).exists_of_on_bind_fst .refl
        (fun _ => steady_addEach c entities _ rest) h
      have hlater : KeyMap.findEntry key rest = none :=
        KeyMap.findEntry_eq_none_iff.2 fun y hy heq =>
        String.lt_irrefl key (heq ▸ hkeys.1 y hy)
      rw [ih hkeys.2 hrest, hlater, of_presentAll hwordings]
      simp [KeyMap.update, KeyMap.findEntry]
    · have hskip : KeyMap.findEntry id ((key, texts) :: rest) = KeyMap.findEntry id rest := by
        rw [KeyMap.findEntry, if_neg hkey]
      rw [hskip]
      cases hother : entities.get? key with
      | none =>
        simp only [hother] at h
        exact ih hkeys.2 h
      | some other =>
        simp only [hother] at h
        obtain ⟨wordings, -, hrest⟩ := (steady_presentAll c other texts).exists_of_on_bind_fst .refl
          (fun _ => steady_addEach c entities _ rest) h
        rw [ih hkeys.2 hrest, KeyMap.update, KeyMap.get?_insert, if_neg hkey]

theorem of_addFrom (registry : s.registry = Registry.builtin) (built : s.store.Built)
    (single : ensureSingleBundle entities.values = .ok ()) {list : List Configuration}
    (h : ((addFrom entities found list).on s).1 = .ok found') {id : String}
    (he : entities.get? id = some e) :
    (found'.get? id).getD [] = (found.get? id).getD [] ++ list.flatMap (wordedBy s e) := by
  induction list generalizing found with
  | nil =>
    cases h
    simp
  | cons c rest ih =>
    rw [addFrom, Step.on_bind_ok (Step.on_get s)] at h
    cases hp : c.provider s.registry s.schema with
    | error _ =>
      simp only [hp] at h
      rw [ih h, List.flatMap_cons, wordedBy, hp, List.nil_append]
    | ok p =>
      simp only [hp] at h
      have hmade := hp
      rw [Configuration.provider, registry] at hmade
      rw [Registry.synonymsOfAll_of_create hmade built single,
        Step.on_bind_ok (Step.on_ofExcept _ s)] at h
      obtain ⟨more, hmore, hrest⟩ := (steady_addEach c entities found _).exists_of_on_bind_fst .refl
        (fun found => steady_addFrom registry entities found rest) h
      have hown : KeyMap.findEntry id (entities.map (p.synonyms s.backend)).entries =
          some (p.synonyms s.backend e) := by
        have hget := KeyMap.get?_map entities (p.synonyms s.backend) id
        rwa [he] at hget
      rw [ih hrest, of_addEach (KeyMap.sorted _) hmore he, hown, List.flatMap_cons, wordedBy, hp,
        List.append_assoc]
      rfl

/-- Each entity gets its worded synonyms. Where select is switched on, the configurations
of the bundle could be had. -/
theorem of_synonymsOfAll (registry : s.registry = Registry.builtin) (built : s.store.Built)
    (h : ((synonymsOfAll entities).on s).1 = .ok found) {id : String}
    (he : entities.get? id = some e) : (found.get? id).getD [] = worded s e ∧
      (Behaviors.isOn s Behavior.select.id e.entityType e.bundle = true →
        ((loadFor e.entityType e.bundle).on s).1 =
          .ok (s.configurationsOf e.entityType e.bundle)) := by
  have hmem : e ∈ entities.values := KeyMap.mem_values_iff.2 ⟨id, he⟩
  have hstart : ((entities.map fun _ => ([] : List SynonymWording)).get? id).getD [] = [] := by
    rw [KeyMap.get?_map, he]
    rfl
  unfold synonymsOfAll at h
  split at h
  · rename_i hnone
    rw [hnone] at hmem
    cases hmem
  · rename_i first rest hvalues
    obtain ⟨⟨⟩, hsingle, hrest⟩ := (Step.Steady.ofExcept _).exists_of_on_bind_fst .refl
      (fun _ => (sameSettings_alike.isEnabled _ _ _).bind fun _ =>
        .ite ((steady_loadFor _ _).bind fun list => steady_addFrom registry entities _ list)
          (.pure _)) h
    rw [Step.on_ofExcept] at hsingle
    rw [hvalues] at hmem
    obtain ⟨htype, hbundle⟩ := of_ensureSingleBundle (hvalues ▸ hsingle) hmem
    rw [← htype, ← hbundle] at hrest
    obtain ⟨enabled, henabled, hnext⟩ :=
      (sameSettings_alike.isEnabled _ _ _).exists_of_on_bind_fst .refl
      (fun _ => .ite ((steady_loadFor _ _).bind fun list => steady_addFrom registry entities _ list)
        (.pure _)) hrest
    rw [Behaviors.eq_of_isEnabled henabled] at hnext
    rw [worded]
    cases hon : Behaviors.isOn s Behavior.select.id e.entityType e.bundle with
    | false =>
      rw [hon] at hnext
      cases hnext
      exact ⟨hstart, fun h => by cases h⟩
    | true =>
      rw [hon] at hnext
      obtain ⟨list, hlist, hadded⟩ := (steady_loadFor _ _).exists_of_on_bind_fst .refl
        (fun list => steady_addFrom registry entities _ list) hnext
      have hown : s.configurationsOf e.entityType e.bundle = list := by
        rw [configurationsOf, hlist]
        rfl
      refine ⟨?_, fun _ => by rw [hlist, hown]⟩
      rw [of_addFrom registry built hsingle hadded he, hstart, List.nil_append, if_pos rfl, hown]

end Select
end SynonymLookup
