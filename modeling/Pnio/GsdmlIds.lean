import Pnio.GsdmlKeys
import Pnio.GsdmlRead

/-!
What the GSDML document refers to: every text is in the list of texts, once, and no two modules or
submodules have the same id.
-/

namespace Pnio

open Xml (Piece Element)

/-! ### What a document mentions -/

/-- The ids in a document, by what they are there for. -/
structure Mentions where
  /-- Texts that elements refer to. -/
  refs : List Bytes := []
  /-- Texts in the list of texts. -/
  defs : List Bytes := []
  /-- All `ID` attributes. -/
  ids : List Bytes := []
  /-- The `ID` of every `ModuleItem`. -/
  modules : List Bytes := []
  /-- Modules that the access point takes. -/
  targets : List Bytes := []
deriving DecidableEq

instance : Append Mentions :=
  ⟨fun a b => ⟨a.refs ++ b.refs, a.defs ++ b.defs, a.ids ++ b.ids, a.modules ++ b.modules,
    a.targets ++ b.targets⟩⟩

def Xml.Element.mentions (e : Element) : Mentions where
  refs := if e.name == utf8 "Text" then [] else (e.get "TextId").toList
  defs := if e.name == utf8 "Text" then (e.get "TextId").toList else []
  ids := (e.get "ID").toList
  modules := if e.name == utf8 "ModuleItem" then (e.get "ID").toList else []
  targets := (e.get "ModuleItemTarget").toList

def mentions (es : List Element) : Mentions where
  refs := es.flatMap (·.mentions.refs)
  defs := es.flatMap (·.mentions.defs)
  ids := es.flatMap (·.mentions.ids)
  modules := es.flatMap (·.mentions.modules)
  targets := es.flatMap (·.mentions.targets)

/-- The mentions of what the pieces are read as. -/
def mentionsOf (ps : List Piece) : Mentions := mentions (ps.flatMap Piece.elements)

lemma mentions_append (a b : List Element) : mentions (a ++ b) = mentions a ++ mentions b := by
  simp only [mentions, List.flatMap_append]
  rfl

@[simp] lemma mentionsOf_nil : mentionsOf [] = {} := rfl

@[simp] lemma mentionsOf_append (a b : List Piece) :
    mentionsOf (a ++ b) = mentionsOf a ++ mentionsOf b := by
  rw [mentionsOf, List.flatMap_append, mentions_append]
  rfl

lemma mentionsOf_flatMap {α : Type} (f : α → List Piece) (l : List α) :
    mentionsOf (l.flatMap f) =
      { refs := l.flatMap fun a => (mentionsOf (f a)).refs
        defs := l.flatMap fun a => (mentionsOf (f a)).defs
        ids := l.flatMap fun a => (mentionsOf (f a)).ids
        modules := l.flatMap fun a => (mentionsOf (f a)).modules
        targets := l.flatMap fun a => (mentionsOf (f a)).targets } := by
  simp only [mentionsOf, mentions, List.flatMap_assoc]

@[simp] lemma mentions_empty_append (a : Mentions) : ({} : Mentions) ++ a = a := rfl

@[simp] lemma mentions_append_empty (a : Mentions) : a ++ ({} : Mentions) = a := by
  obtain ⟨refs, defs, ids, modules, targets⟩ := a
  change Mentions.mk _ _ _ _ _ = _
  simp

@[simp] lemma mentions_mk_append {r d i m t r' d' i' m' t' : List Bytes} :
    (⟨r, d, i, m, t⟩ : Mentions) ++ (⟨r', d', i', m', t'⟩ : Mentions) =
      ⟨r ++ r', d ++ d', i ++ i', m ++ m', t ++ t'⟩ := rfl

section Line

variable {name : String} {attrs : List (String × Bytes)} {ps : List Piece}

lemma lookup_utf8 {α : Type} (key : String) (attrs : List (String × α)) :
    (attrs.map fun a => (utf8 a.1, a.2)).lookup (utf8 key) = attrs.lookup key := by
  induction attrs with
  | nil => rfl
  | cons a attrs ih =>
    obtain ⟨name, v⟩ := a
    simp only [List.map_cons, List.lookup_cons, utf8_beq, ih]

/-- The mentions of one tag. -/
def tagMentions (name : String) (attrs : List (String × Bytes)) : Mentions :=
  Element.mentions ⟨utf8 name, attrs.map fun a => (utf8 a.1, a.2)⟩

lemma tagMentions_eq : tagMentions name attrs =
    { refs := if name == "Text" then [] else (attrs.lookup "TextId").toList
      defs := if name == "Text" then (attrs.lookup "TextId").toList else []
      ids := (attrs.lookup "ID").toList
      modules := if name == "ModuleItem" then (attrs.lookup "ID").toList else []
      targets := (attrs.lookup "ModuleItemTarget").toList } := by
  simp only [tagMentions, Element.mentions, Element.get, lookup_utf8, utf8_beq]

@[simp] lemma mentionsOf_opening :
    mentionsOf (.opening name attrs :: ps) = tagMentions name attrs ++ mentionsOf ps := rfl

@[simp] lemma mentionsOf_tag :
    mentionsOf (.empty name attrs :: ps) = tagMentions name attrs ++ mentionsOf ps := rfl

@[simp] lemma mentionsOf_closing : mentionsOf (.closing name :: ps) = mentionsOf ps := rfl

@[simp] lemma mentionsOf_text : mentionsOf (.text name :: ps) = mentionsOf ps := rfl

@[simp] lemma mentionsOf_line (indent : Nat) : mentionsOf (line indent ps) = mentionsOf ps := by
  simp [line]

end Line

/-! ### The parts of the document -/

section Parts

variable (cfg : DeviceConfig) (vendor : GsdmlMeta) (n : UInt16)

lemma mentionsOf_profileHeader : mentionsOf profileHeader = {} := by decide

lemma mentionsOf_deviceIdentity : mentionsOf (deviceIdentity cfg vendor) =
    { refs := [TextKey.bytes (.dap .infoText)] } := by
  simp [deviceIdentity, tagMentions_eq, List.lookup_cons]
  rfl

lemma mentionsOf_identity : mentionsOf (moduleIdentityXml cfg) = {} := by
  simp [moduleIdentityXml, tagMentions_eq, List.lookup_cons]

lemma mentionsOf_accessPointHead : mentionsOf (accessPointHead cfg vendor) =
    { refs := [TextKey.bytes (.dap .name), TextKey.bytes (.dap .info)]
      ids := [IdKey.dap.bytes] } := by
  simp [accessPointHead, mentionsOf_identity, tagMentions_eq, List.lookup_cons]
  exact ⟨⟨rfl, rfl⟩, rfl⟩

lemma mentionsOf_moduleItemRef (s : SubmoduleSpec) : mentionsOf (moduleItemRef s) =
    { targets := [IdKey.bytes (.item s.slot)] } := by
  simp [moduleItemRef, tagMentions_eq, List.lookup_cons]
  rfl

lemma mentionsOf_accessPointSubmodule : mentionsOf accessPointSubmodule =
    { refs := [TextKey.bytes (.dap .name), TextKey.bytes (.dap .info),
        TextKey.bytes (.dap .interface)]
      ids := [IdKey.dapSubmodule.bytes, IdKey.interface.bytes] } := by
  decide

lemma mentionsOf_timingProperties : mentionsOf (timingProperties cfg) = {} := by
  simp [timingProperties, tagMentions_eq, List.lookup_cons]

lemma mentionsOf_accessPointTail : mentionsOf accessPointTail =
    { refs := [TextKey.bytes (.dap .port1)], ids := [IdKey.port.bytes] } := by
  decide

lemma mentionsOf_moduleHead (s : SubmoduleSpec) : mentionsOf (moduleHead cfg s).x =
    { refs := [TextKey.bytes (.name s.slot), TextKey.bytes (.info s.slot)]
      ids := [IdKey.bytes (.item s.slot), IdKey.bytes (.itemSubmodule s.slot)]
      modules := [IdKey.bytes (.item s.slot)] } := by
  simp [moduleHead, mentionsOf_identity, tagMentions_eq, List.lookup_cons]
  exact ⟨⟨rfl, rfl⟩, ⟨rfl, rfl⟩, rfl⟩

lemma mentionsOf_moduleTail : mentionsOf (moduleTail n) =
    { refs := [TextKey.bytes (.name n), TextKey.bytes (.info n)] } := by
  simp [moduleTail, tagMentions_eq, List.lookup_cons]
  exact ⟨rfl, rfl⟩

lemma mentionsOf_textXml (t : Bytes × Bytes) : mentionsOf (textXml t) = { defs := [t.1] } := by
  simp [textXml, tagMentions_eq, List.lookup_cons]

lemma mentionsOf_textListHead : mentionsOf textListHead = {} := by decide

lemma mentionsOf_textListTail : mentionsOf textListTail = {} := by decide

end Parts

/-! ### The items of a module -/

namespace Item

variable (n : UInt16) (side : Side)

/-- The texts of an item. -/
def keys : Item → List TextKey
  | .scalar _ i => [.item n side i .scalar]
  | .bits group =>
    .item n side ((group.head?.map (·.1)).getD 0) .bits ::
      group.map fun p => .item n side p.1 .bit

lemma texts_keys (item : Item) :
    (item.texts n side.short).map (·.1) = (item.keys n side).map TextKey.bytes := by
  cases item with
  | scalar ty i => rfl
  | bits group =>
    simp only [texts, keys, List.map_cons, List.map_map]
    rfl

lemma mentionsOf_xml (item : Item) : mentionsOf (item.render n side.short).xml =
    { refs := (item.keys n side).map TextKey.bytes } := by
  cases item with
  | scalar ty i =>
    simp [render, DataItem.xml, tagMentions_eq, List.lookup_cons]
    rfl
  | bits group =>
    have hbit : ∀ b : BitDataItem, mentionsOf b.xml = { refs := [utf8 b.textId] } := by
      intro b
      simp [BitDataItem.xml, tagMentions_eq, List.lookup_cons]
    simp only [render, DataItem.xml, mentionsOf_append, mentionsOf_flatMap, hbit, keys]
    simp [tagMentions_eq, List.lookup_cons, List.flatMap_map]
    exact ⟨rfl, List.map_eq_flatMap.symm⟩

variable {n side} in
/-- A text of an item is about one of its fields. -/
lemma index_of_mem_keys {item : Item} (hg : ∀ g, item = .bits g → g ≠ []) {k : TextKey}
    (h : k ∈ item.keys n side) : ∃ i ∈ item.indices, ∃ kind, k = .item n side i kind := by
  cases item with
  | scalar ty i =>
    rw [keys, List.mem_singleton] at h
    exact ⟨i, List.mem_singleton_self i, _, h⟩
  | bits group =>
    rw [keys, List.mem_cons] at h
    rcases h with rfl | h
    · obtain ⟨p, rest, rfl⟩ := List.exists_cons_of_ne_nil (hg group rfl)
      exact ⟨p.1, List.mem_cons_self, _, rfl⟩
    · obtain ⟨p, hp, rfl⟩ := List.mem_map.1 h
      exact ⟨p.1, List.mem_map_of_mem hp, _, rfl⟩

lemma nodup_keys {item : Item} (h : item.indices.Nodup) : (item.keys n side).Nodup := by
  cases item with
  | scalar ty i => exact List.nodup_singleton _
  | bits group =>
    rw [keys, List.nodup_cons]
    constructor
    · intro hmem
      obtain ⟨p, -, hp⟩ := List.mem_map.1 hmem
      exact absurd (TextKey.item.inj hp).2.2.2 (by decide)
    · have hinj : Function.Injective fun i => TextKey.item n side i .bit := by
        rintro i j ⟨⟩
        rfl
      have hmap := h.map hinj
      rwa [indices, List.map_map] at hmap

end Item

section Items

variable {out : List Item} {f : FieldRef} {i : Nat}

/-- A field joins the last group of bits, or begins an item of its own. -/
lemma pushItem_cases (out : List Item) (f : FieldRef) (i : Nat) :
    (∃ out' g, out = out' ++ [Item.bits g] ∧
        pushItem out (f, i) = out' ++ [Item.bits (g ++ [(i, f)])]) ∨
      ∃ item : Item, item.indices = [i] ∧ (∀ g, item = .bits g → g ≠ []) ∧
        pushItem out (f, i) = out ++ [item] := by
  by_cases hty : f.ty = .bool
  · by_cases hlast : ∃ g, out.getLast? = some (.bits g) ∧
        g.getLast?.map (·.2.byte) = some f.byte
    · obtain ⟨g, hg, hbyte⟩ := hlast
      obtain ⟨out', rfl⟩ := List.getLast?_eq_some_iff.1 hg
      exact .inl ⟨out', g, rfl, pushItem_bit hty hbyte⟩
    · refine .inr ⟨.bits [(i, f)], rfl, ?_, pushItem_newBit hty fun g hg hb => hlast ⟨g, hg, hb⟩⟩
      rintro g ⟨⟩
      exact List.cons_ne_nil _ _
  · exact .inr ⟨.scalar f.ty i, rfl, fun g hg => (by cases hg), pushItem_scalar hty⟩

/-- Every field is in one item, and every group of bits has a field. -/
lemma items_fields (fields : List FieldRef) :
    (items fields).flatMap Item.indices = List.range fields.length ∧
      ∀ item ∈ items fields, ∀ g, item = .bits g → g ≠ [] := by
  induction fields using List.reverseRecOn with
  | nil => exact ⟨rfl, fun item h => by cases h⟩
  | append_singleton fields f ih =>
    obtain ⟨hindices, hgroups⟩ := ih
    rw [items_snoc, List.length_append, List.length_singleton, List.range_succ, ← hindices]
    rcases pushItem_cases (items fields) f fields.length with
      ⟨out', g, hout, hpush⟩ | ⟨item, hi, hg, hpush⟩
    · rw [hpush, hout]
      refine ⟨by simp [Item.indices], fun item hmem => ?_⟩
      rcases List.mem_append.1 hmem with hmem | hmem
      · exact hgroups item (hout ▸ List.mem_append_left _ hmem)
      · rw [List.mem_singleton.1 hmem]
        rintro _ ⟨⟩
        exact List.append_ne_nil_of_right_ne_nil _ (List.cons_ne_nil _ _)
    · rw [hpush]
      refine ⟨by simp [hi], fun item' hmem => ?_⟩
      rcases List.mem_append.1 hmem with hmem | hmem
      · exact hgroups item' hmem
      · rw [List.mem_singleton.1 hmem]
        exact hg

/-- The items of one side have different texts. -/
lemma nodup_items_keys (fields : List FieldRef) (n : UInt16) (side : Side) :
    ((items fields).flatMap (Item.keys n side)).Nodup := by
  obtain ⟨hindices, hgroups⟩ := items_fields fields
  have hnodup : ((items fields).flatMap Item.indices).Nodup := hindices ▸ List.nodup_range
  obtain ⟨heach, hapart⟩ := List.nodup_flatMap.1 hnodup
  refine List.nodup_flatMap.2 ⟨fun item hi => Item.nodup_keys n side (heach item hi), ?_⟩
  refine hapart.imp_of_mem fun {a b} ha hb hab k hka hkb => ?_
  obtain ⟨i, hi, kind, rfl⟩ := Item.index_of_mem_keys (hgroups a ha) hka
  obtain ⟨j, hj, kind', heq⟩ := Item.index_of_mem_keys (hgroups b hb) hkb
  cases heq
  exact hab hi hj

end Items

/-! ### The whole document -/

/-- The texts of one side of a module. -/
def sideKeys (cfg : DeviceConfig) (n : UInt16) (side : Side) : List TextKey :=
  (items ((cfg.fields n side.direction).getD [])).flatMap (Item.keys n side)

/-- The texts of a module. -/
def moduleKeys (cfg : DeviceConfig) (n : UInt16) : List TextKey :=
  [.name n, .info n] ++ sideKeys cfg n .input ++ sideKeys cfg n .output

def dapKeys : List TextKey :=
  [.dap .infoText, .dap .name, .dap .info, .dap .interface, .dap .port1]

/-- The texts that the elements of the access point refer to, in their order. -/
def dapRefs : List TextKey :=
  [.dap .infoText, .dap .name, .dap .info, .dap .name, .dap .info, .dap .interface, .dap .port1]

/-- All texts of the document. -/
def textKeys (cfg : DeviceConfig) : List TextKey :=
  dapKeys ++ cfg.submodules.flatMap fun s => moduleKeys cfg s.slot

/-- All that has an id in the document. -/
def idKeys (cfg : DeviceConfig) : List IdKey :=
  [.dap, .dapSubmodule, .interface, .port] ++
    cfg.submodules.flatMap fun s => [.item s.slot, .itemSubmodule s.slot]

section Document

variable (cfg : DeviceConfig) (vendor : GsdmlMeta)

lemma sideDraft_texts (n : UInt16) (side : Side) :
    (sideDraft cfg n side).texts.map (·.1) = (sideKeys cfg n side).map TextKey.bytes := by
  unfold sideDraft sideKeys
  cases cfg.fields n side.direction with
  | none => rfl
  | some fields =>
    simp only [Option.getD_some, List.flatMap_map, List.map_flatMap, Item.draft, Item.texts_keys]

lemma mentionsOf_sideDraft (n : UInt16) (side : Side) :
    mentionsOf (sideDraft cfg n side).x =
      { refs := (sideKeys cfg n side).map TextKey.bytes } := by
  unfold sideDraft sideKeys
  cases cfg.fields n side.direction with
  | none => rfl
  | some fields =>
    have htag : side.tag ≠ "Text" ∧ side.tag ≠ "ModuleItem" := by
      cases side <;> decide
    simp only [mentionsOf_append, mentionsOf_flatMap, List.flatMap_map, Item.draft,
      Item.mentionsOf_xml, Option.getD_some, List.map_flatMap]
    simp [tagMentions_eq, List.lookup_cons, htag]

lemma moduleDraft_texts (s : SubmoduleSpec) :
    (moduleDraft cfg s).texts.map (·.1) = (moduleKeys cfg s.slot).map TextKey.bytes := by
  have htexts : (moduleDraft cfg s).texts = (moduleHead cfg s).texts ++
      (sideDraft cfg s.slot .input).texts ++ (sideDraft cfg s.slot .output).texts ++ [] := rfl
  rw [htexts, List.append_nil, List.map_append, List.map_append, sideDraft_texts, sideDraft_texts,
    moduleKeys, List.map_append, List.map_append]
  rfl

lemma mentionsOf_moduleDraft (s : SubmoduleSpec) : mentionsOf (moduleDraft cfg s).x =
    { refs := (moduleKeys cfg s.slot).map TextKey.bytes ++
        [TextKey.bytes (.name s.slot), TextKey.bytes (.info s.slot)]
      ids := [IdKey.bytes (.item s.slot), IdKey.bytes (.itemSubmodule s.slot)]
      modules := [IdKey.bytes (.item s.slot)] } := by
  have hx : (moduleDraft cfg s).x = (moduleHead cfg s).x ++
      (sideDraft cfg s.slot .input).x ++ (sideDraft cfg s.slot .output).x ++
      moduleTail s.slot := rfl
  simp [hx, mentionsOf_moduleHead, mentionsOf_sideDraft, mentionsOf_moduleTail, moduleKeys]

/-- The texts that end up in the list. -/
lemma texts_keys :
    (accessPointTexts vendor ++
      (cfg.submodules.map (moduleDraft cfg)).flatMap (·.texts)).map (·.1) =
        (textKeys cfg).map TextKey.bytes := by
  simp only [textKeys, List.map_append, List.map_flatMap, List.flatMap_map, moduleDraft_texts]
  rfl

lemma mentionsOf_document : mentionsOf (document cfg vendor) =
    { refs := dapRefs.map TextKey.bytes ++
        cfg.submodules.flatMap fun s => (moduleKeys cfg s.slot).map TextKey.bytes ++
          [TextKey.bytes (.name s.slot), TextKey.bytes (.info s.slot)]
      defs := (textKeys cfg).map TextKey.bytes
      ids := (idKeys cfg).map IdKey.bytes
      modules := cfg.submodules.map fun s => IdKey.bytes (.item s.slot)
      targets := cfg.submodules.map fun s => IdKey.bytes (.item s.slot) } := by
  have htexts := texts_keys cfg vendor
  simp only [document, mentionsOf_append, mentionsOf_flatMap, List.flatMap_map,
    mentionsOf_profileHeader, mentionsOf_deviceIdentity, mentionsOf_accessPointHead,
    mentionsOf_moduleItemRef, mentionsOf_accessPointSubmodule, mentionsOf_timingProperties,
    mentionsOf_accessPointTail, mentionsOf_moduleDraft, mentionsOf_textListHead,
    mentionsOf_textListTail, mentionsOf_textXml, mentions_mk_append, idKeys, dapRefs]
  rw [← htexts]
  have hnil : ∀ {α : Type} (l : List α), l.flatMap (fun _ => ([] : List Bytes)) = [] := fun l => by
    simp
  simp only [hnil, List.map_eq_flatMap, List.flatMap_append, List.flatMap_assoc, List.nil_append,
    List.append_nil, List.cons_append, List.flatMap_cons, List.flatMap_nil]

end Document

/-! ### No text twice -/

section Nodup

variable {cfg : DeviceConfig} {n : UInt16} {side : Side} {k : TextKey}

lemma mem_sideKeys (h : k ∈ sideKeys cfg n side) : ∃ i kind, k = .item n side i kind := by
  obtain ⟨item, hi, hk⟩ := List.mem_flatMap.1 h
  obtain ⟨i, -, kind, rfl⟩ := Item.index_of_mem_keys ((items_fields _).2 item hi) hk
  exact ⟨i, kind, rfl⟩

lemma slot_of_mem_moduleKeys (h : k ∈ moduleKeys cfg n) : k.slot = some n := by
  rcases List.mem_append.1 h with h | h
  · rcases List.mem_append.1 h with h | h
    · rcases List.mem_cons.1 h with rfl | h
      · rfl
      · rw [List.mem_singleton.1 h]
        rfl
    · obtain ⟨i, kind, rfl⟩ := mem_sideKeys h
      rfl
  · obtain ⟨i, kind, rfl⟩ := mem_sideKeys h
    rfl

lemma nodup_moduleKeys (cfg : DeviceConfig) (n : UInt16) : (moduleKeys cfg n).Nodup := by
  refine List.nodup_append.2 ⟨List.nodup_append.2 ⟨?_, nodup_items_keys _ n .input, ?_⟩,
    nodup_items_keys _ n .output, ?_⟩
  · simp
  · rintro k hk _ hin rfl
    obtain ⟨i, kind, rfl⟩ := mem_sideKeys hin
    simp at hk
  · rintro k hk _ hout rfl
    obtain ⟨i, kind, rfl⟩ := mem_sideKeys hout
    rcases List.mem_append.1 hk with hk | hk
    · simp at hk
    · obtain ⟨i', kind', heq⟩ := mem_sideKeys hk
      cases heq

variable (h : cfg.Sound)
include h

lemma DeviceConfig.Sound.slots_ne : cfg.submodules.Pairwise fun s t => s.slot ≠ t.slot :=
  h.slots.imp fun hlt => UInt16.ne_of_lt hlt

lemma nodup_textKeys : (textKeys cfg).Nodup := by
  refine List.nodup_append.2 ⟨by decide, List.nodup_flatMap.2
    ⟨fun s _ => nodup_moduleKeys cfg s.slot, h.slots_ne.imp fun hne k hk hk' => ?_⟩, ?_⟩
  · have := (slot_of_mem_moduleKeys hk).symm.trans (slot_of_mem_moduleKeys hk')
    exact hne (Option.some.inj this)
  · rintro k hk _ hk' rfl
    obtain ⟨s, -, hs⟩ := List.mem_flatMap.1 hk'
    have hslot := slot_of_mem_moduleKeys hs
    have hnone : ∀ k ∈ dapKeys, k.slot = none := by decide
    rw [hnone k hk] at hslot
    cases hslot

lemma nodup_idKeys : (idKeys cfg).Nodup := by
  have hslot : ∀ (s : UInt16), ∀ k ∈ [IdKey.item s, .itemSubmodule s], k.slot = some s := by
    simp [IdKey.slot]
  refine List.nodup_append.2 ⟨by decide, List.nodup_flatMap.2 ⟨fun s _ => by simp,
    h.slots_ne.imp fun hne k hk hk' => ?_⟩, ?_⟩
  · have := (hslot _ k hk).symm.trans (hslot _ k hk')
    exact hne (Option.some.inj this)
  · rintro k hk _ hk' rfl
    obtain ⟨s, -, hs⟩ := List.mem_flatMap.1 hk'
    have hnone : ∀ k ∈ [IdKey.dap, .dapSubmodule, .interface, .port], k.slot = none := by decide
    have := hslot s.slot k hs
    rw [hnone k hk] at this
    cases this

end Nodup

/-! ### The rendered document -/

/-- Elements refer only to texts of the list. -/
lemma refs_subset (cfg : DeviceConfig) (vendor : GsdmlMeta) {t : Bytes}
    (ht : t ∈ (mentionsOf (document cfg vendor)).refs) : t ∈ (textKeys cfg).map TextKey.bytes := by
  rw [mentionsOf_document] at ht
  rcases List.mem_append.1 ht with ht | ht
  · have hdap : ∀ k ∈ dapRefs, k ∈ dapKeys := by decide
    obtain ⟨k, hk, rfl⟩ := List.mem_map.1 ht
    exact List.mem_map_of_mem (List.mem_append_left _ (hdap k hk))
  · obtain ⟨s, hs, ht⟩ := List.mem_flatMap.1 ht
    obtain ⟨k, hk, rfl⟩ : ∃ k ∈ moduleKeys cfg s.slot, k.bytes = t := by
      rcases List.mem_append.1 ht with ht | ht
      · exact List.mem_map.1 ht
      · rcases List.mem_pair.1 ht with rfl | rfl
        · exact ⟨.name s.slot, by simp [moduleKeys], rfl⟩
        · exact ⟨.info s.slot, by simp [moduleKeys], rfl⟩
    exact List.mem_map_of_mem (List.mem_append_right _ (List.mem_flatMap.2 ⟨s, hs, hk⟩))

/-- **In the document of a configuration that `build` returns, as a reader of the file finds it,
every text an element refers to is in the list of texts exactly once, no text and no `ID` occurs
twice, and the modules that the access point takes are there.** -/
theorem render_ids_consistent {b : DeviceConfigBuilder} {cfg : DeviceConfig}
    (h : b.build = .ok cfg) (vendor : GsdmlMeta) :
    let m := mentions (Xml.read (render cfg vendor))
    (∀ t ∈ m.refs, m.defs.count t = 1) ∧ m.defs.Nodup ∧ m.ids.Nodup ∧
      ∀ t ∈ m.targets, t ∈ m.modules := by
  have hsound := DeviceConfigBuilder.build_sound h
  have hdefs : ((textKeys cfg).map TextKey.bytes).Nodup :=
    (nodup_textKeys hsound).map TextKey.id_injective
  have hids : ((idKeys cfg).map IdKey.bytes).Nodup :=
    (nodup_idKeys hsound).map IdKey.bytes_injective
  have hrefs := fun t => refs_subset cfg vendor (t := t)
  intro m
  have hm : m = mentionsOf (document cfg vendor) := congrArg mentions (read_render h vendor)
  rw [hm]
  refine ⟨fun t ht => ?_, ?_⟩
  · rw [mentionsOf_document]
    exact List.count_eq_one_of_mem hdefs (hrefs t ht)
  · rw [mentionsOf_document]
    exact ⟨hdefs, hids, fun t ht => ht⟩

/-- The document of the demo: there are texts, modules and ids to speak of. -/
theorem render_ids_consistent_demo :
    AppDemo.builder.build = .ok AppDemo.cfg ∧
      let m := mentions (Xml.read (render AppDemo.cfg
        ⟨AppDemo.cfg.stationType, AppDemo.cfg.stationType, AppDemo.cfg.stationType⟩))
      (m.refs ≠ [] ∧ m.targets ≠ [] ∧ m.ids ≠ []) ∧
        (∀ t ∈ m.refs, m.defs.count t = 1) ∧ m.defs.Nodup ∧ m.ids.Nodup ∧
          ∀ t ∈ m.targets, t ∈ m.modules := by
  refine ⟨AppDemo.build_builder, ?_, render_ids_consistent AppDemo.build_builder _⟩
  rw [read_render AppDemo.build_builder]
  change (mentionsOf _).refs ≠ [] ∧ (mentionsOf _).targets ≠ [] ∧ (mentionsOf _).ids ≠ []
  rw [mentionsOf_document]
  exact ⟨by simp [dapRefs], by decide, by simp [idKeys]⟩

end Pnio
