import ClientScribe.Config
import ClientScribe.Proofs.Common.Values

/-!
Configuration files that are JSON.  Where their text is one in both notations, they are read as
JSON: products are those of the entries listed, and patches are the members of the object.
-/

namespace ClientScribe.Config

open Common (IsGap SpellsMember alone isCompound string_plain value)
open Yaml (Document Item)

/-! ### Items that are JSON values -/

/-- An item of a document that is a JSON value. -/
inductive Shows : Item → Json → Prop
  | mk {d : Document} {depth i : Nat} {v : Json} (h : d.json? depth i = some v) :
    Shows (.value d i) v

/-- An entry of a mapping that is a member of an object. -/
structure ShowsMember (d : Document) (e : Nat × Nat) (m : String × Json) : Prop where
  key : d.text? e.1 = some m.1
  value : Shows (.value d e.2) m.2

section

variable {d : Document} {i : Nat} {v : Json}

/-- What a node has tells what JSON value it is. -/
theorem shows_cases (h : Shows (.value d i) v) :
    (∃ a, d.values[i]? = some (.atom a) ∧ a.json? = some v) ∨
    (∃ items vs, d.values[i]? = some (.list items) ∧ v = .arr vs ∧
      List.Forall₂ (fun j w => Shows (.value d j) w) items vs) ∨
    ∃ es ms, d.values[i]? = some (.map es) ∧ v = .obj ms ∧ List.Forall₂ (ShowsMember d) es ms := by
  obtain ⟨h⟩ := h
  rename_i depth
  rcases depth with _ | depth
  · cases h
  rw [Document.json?] at h
  split at h
  · exact .inl ⟨_, ‹_›, h⟩
  · obtain ⟨vs, hvs, rfl⟩ := Option.map_eq_some_iff.1 h
    refine .inr (.inl ⟨_, vs, ‹_›, rfl, ?_⟩)
    exact (Yaml.mapM_eq_some_iff.1 hvs).imp fun j w hj => ⟨hj⟩
  · obtain ⟨ms, hms, rfl⟩ := Option.map_eq_some_iff.1 h
    refine .inr (.inr ⟨_, ms, ‹_›, rfl, (Yaml.mapM_eq_some_iff.1 hms).imp fun e m he => ?_⟩)
    obtain ⟨hkey, hvalue⟩ := Document.memberWith?_eq_some_iff.1 he
    exact ⟨hkey, ⟨hvalue⟩⟩
  · cases h

theorem shows_str {s : String} (h : Shows (.value d i) (.str s)) :
    d.values[i]? = some (.atom (.text s)) := by
  rcases shows_cases h with ⟨a, ha, hjson⟩ | ⟨items, vs, -, hv, -⟩ | ⟨es, ms, -, hv, -⟩
  · rw [ha]
    cases a <;> cases hjson
    rfl
  · cases hv
  · cases hv

theorem shows_arr {vs : List Json} (h : Shows (.value d i) (.arr vs)) :
    ∃ items, d.values[i]? = some (.list items) ∧
      List.Forall₂ (fun j w => Shows (.value d j) w) items vs := by
  rcases shows_cases h with ⟨a, -, hjson⟩ | ⟨items, vs, hitems, hv, hvs⟩ | ⟨es, ms, -, hv, -⟩
  · cases a <;> cases hjson
  · cases hv
    exact ⟨items, hitems, hvs⟩
  · cases hv

theorem shows_obj {ms : Json.Members} (h : Shows (.value d i) (.obj ms)) :
    ∃ es, d.values[i]? = some (.map es) ∧ List.Forall₂ (ShowsMember d) es ms := by
  rcases shows_cases h with ⟨a, -, hjson⟩ | ⟨items, vs, -, hv, -⟩ | ⟨es, ms, hes, hv, hms⟩
  · cases a <;> cases hjson
  · cases hv
  · cases hv
    exact ⟨es, hes, hms⟩

end

/-! ### Products -/

/-- An object that lists a product: the id is a string, and the urls are strings. -/
inductive IsEntry : Json → Product → Prop
  | mk {members : Json.Members} {p : Product} (id : members.lookup "id" = some (.str p.id))
    (urls : members.lookup "urls" = some (.arr (p.urls.map .str))) : IsEntry (.obj members) p

/-- A value that lists products, by itself or under `products`. -/
inductive Lists : Json → List Product → Prop
  | list {items : List Json} {ps : List Product} (entries : List.Forall₂ IsEntry items ps) :
    Lists (.arr items) ps
  | object {members : Json.Members} {items : List Json} {ps : List Product}
    (products : members.lookup "products" = some (.arr items))
    (entries : List.Forall₂ IsEntry items ps) : Lists (.obj members) ps

/-- The members of an item that is an object. -/
theorem members?_of_shows {item : Item} {ms : Json.Members} (h : Shows item (.obj ms)) :
    ∃ members, members? item = some members ∧
      List.Forall₂ (fun e m => e.1 = m.1 ∧ Shows e.2 m.2) members ms := by
  obtain ⟨d, i⟩ | _ := item
  · obtain ⟨es, hes, hms⟩ := shows_obj h
    have hentries : d.entries? i = some es := by rw [Document.entries?, hes]
    rw [members?, hentries, Option.bind_some]
    clear hes hentries h
    induction hms with
    | nil => exact ⟨[], rfl, .nil⟩
    | @cons e m es ms he _ ih =>
      obtain ⟨members, hmembers, hshows⟩ := ih
      refine ⟨(m.1, .value d e.2) :: members, ?_, .cons ⟨rfl, he.value⟩ hshows⟩
      rw [Json.mapM_cons_of_eq_some (by rw [he.key, Option.map_some]), hmembers]
      rfl
  · cases h

theorem lookup_of_shows {members : List (String × Item)} {ms : Json.Members}
    (h : List.Forall₂ (fun e m => e.1 = m.1 ∧ Shows e.2 m.2) members ms) {key : String} {v : Json}
    (hv : ms.lookup key = some v) : ∃ item, members.lookup key = some item ∧ Shows item v := by
  induction h with
  | nil => cases hv
  | @cons e m members ms he _ ih =>
    obtain ⟨k, item⟩ := e
    obtain ⟨rfl, hshows⟩ : k = m.1 ∧ Shows item m.2 := he
    obtain ⟨k, w⟩ := m
    rw [List.lookup_cons] at hv ⊢
    by_cases hkey : (key == k) = true
    · simp only [hkey] at hv ⊢
      cases hv
      exact ⟨item, rfl, hshows⟩
    · simp only [hkey] at hv ⊢
      exact ih hv

theorem text_of_shows {item : Item} {s : String} (h : Shows item (.str s)) :
    Decode.text item = .ok s := by
  obtain ⟨d, i⟩ | _ := item
  · have hshape : View.shape (Item.value d i) = .text s := by
      change d.shape i = _
      rw [Document.shape, shows_str h]
      rfl
    rw [Decode.text, hshape]
  · cases h

theorem texts_of_shows {item : Item} {ss : List String} (h : Shows item (.arr (ss.map .str))) :
    Decode.list Decode.text item = .ok ss := by
  obtain ⟨d, i⟩ | _ := item
  · obtain ⟨items, hitems, hshows⟩ := shows_arr h
    have hshape : View.shape (Item.value d i) = .list (items.map (Item.value d)) := by
      change d.shape i = _
      rw [Document.shape, hitems]
    rw [Decode.list, hshape]
    have hfrom (n : Nat) : Decode.itemsFrom Decode.text n (items.map (Item.value d)) = .ok ss := by
      rw [List.forall₂_map_right_iff] at hshows
      clear hitems hshape h
      induction hshows generalizing n with
      | nil => rfl
      | cons hs _ ih =>
        rw [List.map_cons, Decode.itemsFrom, text_of_shows hs, ih]
        rfl
    exact hfrom 0
  · cases h

/-- An item that lists a product is read as this product. -/
theorem product_of_shows {item : Item} {v : Json} {p : Product} (h : Shows item v)
    (hp : IsEntry v p) : product item = .ok p := by
  obtain ⟨hid, hurls⟩ := hp
  obtain ⟨members, hmembers, hshows⟩ := members?_of_shows h
  obtain ⟨id, hid, hidShows⟩ := lookup_of_shows hshows hid
  obtain ⟨urls, hurls, hurlsShows⟩ := lookup_of_shows hshows hurls
  have hproduct : Decode.productOf members = .ok p := by
    simp only [Decode.productOf, Decode.required, Decode.pick, List.findSome?_cons, hid, hurls,
      Option.map_some, text_of_shows hidShows, texts_of_shows hurlsShows]
    rfl
  rw [product, hmembers]
  dsimp only
  rw [hproduct]

theorem products_of_shows {items : List Item} {vs : List Json} {ps : List Product}
    (h : List.Forall₂ Shows items vs) (hps : List.Forall₂ IsEntry vs ps) :
    items.mapM product = .ok ps := by
  induction h generalizing ps with
  | nil =>
    cases hps
    rfl
  | cons hitem _ ih =>
    cases hps with
    | cons hp hps =>
      rw [List.mapM_cons, product_of_shows hitem hp, ih hps]
      rfl

/-- The first entry of a key has the value of the key. -/
theorem find?_of_shows {d : Document} {es : List (Nat × Nat)} {ms : Json.Members}
    (h : List.Forall₂ (ShowsMember d) es ms) {key : String} {v : Json}
    (hv : ms.lookup key = some v) :
    ∃ e, es.find? (fun e => d.text? e.1 = some key) = some e ∧ Shows (.value d e.2) v := by
  induction h with
  | nil => cases hv
  | @cons e m es ms he _ ih =>
    obtain ⟨k, w⟩ := m
    rw [List.lookup_cons] at hv
    rw [List.find?_cons, he.key]
    by_cases hkey : key = k
    · subst hkey
      rw [beq_self_eq_true] at hv
      cases hv
      exact ⟨e, by simp, he.value⟩
    · rw [beq_eq_false_iff_ne.2 hkey] at hv
      obtain ⟨f, hf, hshows⟩ := ih hv
      exact ⟨f, by simpa [Ne.symm hkey] using hf, hshows⟩

/-- The list of products in a document is that of the value that the document is. -/
theorem productList?_of_shows {d : Document} {v : Json} {ps : List Product}
    (h : Shows (.value d d.root) v) (hps : Lists v ps) :
    ∃ items vs, productList? d = some items ∧ List.Forall₂ Shows items vs ∧
      List.Forall₂ IsEntry vs ps := by
  have hlist {i : Nat} {vs : List Json} (h : Shows (.value d i) (.arr vs)) :
      ∃ items, items? d i = some items ∧ List.Forall₂ Shows items vs := by
    obtain ⟨items, hitems, hshows⟩ := shows_arr h
    exact ⟨items.map (.value d), by rw [items?, hitems], List.forall₂_map_left_iff.2 hshows⟩
  cases hps with
  | list hentries =>
    obtain ⟨items, hitems, hshows⟩ := hlist h
    have hnone : d.entries? d.root = none := by
      obtain ⟨js, hjs, -⟩ := shows_arr h
      rw [Document.entries?, hjs]
    exact ⟨items, _, by rw [productList?, hnone]; exact hitems, hshows, hentries⟩
  | object hproducts hentries =>
    obtain ⟨es, hes, hms⟩ := shows_obj h
    have hsome : d.entries? d.root = some es := by rw [Document.entries?, hes]
    obtain ⟨e, he, hvalue⟩ := find?_of_shows hms hproducts
    obtain ⟨items, hitems, hshows⟩ := hlist hvalue
    refine ⟨items, _, ?_, hshows, hentries⟩
    rw [productList?, hsome]
    dsimp only
    rw [he]
    exact hitems

/-! ### Patches -/

/-- Patches that are the members of an object. -/
def Patches.Are (ps : Patches) (members : Json.Members) : Prop :=
  List.Forall₂ (ShowsMember ps.document) ps.entries members

theorem patches?_of_shows {d : Document} {members : Json.Members}
    (h : Shows (.value d d.root) (.obj members))
    (hobjects : ∀ m ∈ members, ∃ ns, m.2 = .obj ns) :
    ∃ ps, patches? d = some ps ∧ ps.Are members := by
  obtain ⟨es, hes, hms⟩ := shows_obj h
  have hmappings : es.all (fun e => (d.entries? e.2).isSome) = true := by
    clear hes h
    induction hms with
    | nil => rfl
    | @cons e m es ms he _ ih =>
      rw [List.forall_mem_cons] at hobjects
      obtain ⟨key, v⟩ := m
      obtain ⟨ns, rfl⟩ : ∃ ns, v = .obj ns := hobjects.1
      obtain ⟨fs, hfs, -⟩ := shows_obj he.value
      rw [List.all_cons, ih hobjects.2, Document.entries?, hfs]
      rfl
  exact ⟨⟨d, es⟩, by rw [patches?, hes]; exact if_pos hmappings, hms⟩

/-! ### Files -/

/-- The common text of a list or an object is a document that is this value. -/
theorem document_common [Interpreter] {text : String} {v : Json}
    (h : alone (value Interpreter.documentDepth) text.toList v) (hv : isCompound v = true) :
    ∃ d, document (.ok text.toUTF8) = .ok d ∧ Shows (.value d d.root) v := by
  have hunified : alone (value Interpreter.documentDepth)
      (String.ofList (Text.unifyLineEnds text.toList)).toList v := by
    rw [String.toList_ofList]
    exact Common.alone_unified h
  obtain ⟨d, hread, hjson⟩ := Common.read_common hunified hv
  refine ⟨d, ?_, ⟨hjson⟩⟩
  rw [document, Text.ofBytes?, Text.fromUTF8?_toUTF8, Option.map_some]
  dsimp only
  rw [hread]
  rfl

theorem isCompound_of_lists {v : Json} {ps : List Product} (h : Lists v ps) :
    isCompound v = true := by
  cases h <;> rfl

/-- Configuration that is written as JSON is read as JSON where the text means the same in both
notations: products are those of the entries that are listed, and the patches in an object of
objects are its members. -/
theorem common_read_as_json [Interpreter] {text : String} {v : Json}
    (h : alone (value Interpreter.documentDepth) text.toList v) :
    Json.read text = .ok v ∧
    (∀ ps, Lists v ps → products (.ok text.toUTF8) = .ok ps) ∧
    ∀ members, v = .obj members → (∀ m ∈ members, ∃ ns, m.2 = .obj ns) →
      ∃ ps, patches (some (.ok text.toUTF8)) = .ok ps ∧ ps.Are members := by
  refine ⟨Common.readWith_alone h, fun ps hps => ?_, ?_⟩
  · obtain ⟨d, hd, hshows⟩ := document_common h (isCompound_of_lists hps)
    obtain ⟨items, vs, hlist, hitems, hentries⟩ := productList?_of_shows hshows hps
    unfold products
    simp only [hd, bind, Except.bind, hlist]
    exact products_of_shows hitems hentries
  · rintro members rfl hobjects
    obtain ⟨d, hd, hshows⟩ := document_common h rfl
    obtain ⟨ps, hps, hare⟩ := patches?_of_shows hshows hobjects
    refine ⟨ps, ?_, hare⟩
    unfold patches
    simp only [hd, bind, Except.bind, hps]
    rfl

theorem listed_product_read :
    products (.ok "[\x7b\"id\": \"a\", \"urls\": [\"u\"]\x7d]".toUTF8) = .ok [⟨"a", ["u"]⟩]
    ∧ ∃ ps, patches (some (.ok "\x7b\"a\": \x7b\x7d\x7d".toUTF8)) = .ok ps
      ∧ ps.Are [("a", .obj [])] := by
  have hnone : IsGap [] := List.forall_mem_nil _
  have hspace : IsGap [' '] := List.forall_mem_singleton.2 rfl
  have hid := SpellsMember.mk (V := value 488) (string_plain (s := ['i', 'd']) rfl)
    (List.forall_mem_nil _) (by decide) hspace
    (Or.inl (.string (string_plain (s := ['a']) rfl)))
  have hlist : value (487 + 1) _ _ := Or.inr (Or.inl (.mk (.parts hnone (.last
    (P := value (486 + 1)) (Or.inl (.string (string_plain (s := ['u']) rfl))) hnone))))
  have hurls := SpellsMember.mk (V := value 488)
    (string_plain (s := ['u', 'r', 'l', 's']) rfl) (List.forall_mem_nil _) (by decide)
    hspace hlist
  have hentry : value (488 + 1) _ _ :=
    Or.inr (Or.inr (.mk (.parts hnone (.more hid hnone hspace (.last hurls hnone)))))
  have hproducts := alone.mk (V := value (489 + 1)) hnone
    (Or.inr (Or.inl (.mk (.parts hnone (.last hentry hnone))))) hnone
  have hobject : value (488 + 1) _ _ := Or.inr (Or.inr (.mk (.empty hnone)))
  have hpatches := alone.mk (V := value (489 + 1)) hnone (Or.inr (Or.inr (.mk (.parts hnone
    (.last (.mk (string_plain (s := ['a']) rfl) (List.forall_mem_nil _) (by decide) hspace
      hobject) hnone))))) hnone
  rw [← String.toList_ofList (l := _ ++ _)] at hproducts hpatches
  refine ⟨?_, ?_⟩
  · exact (common_read_as_json hproducts).2.1 _ (.list (.cons (.mk rfl rfl) .nil))
  · exact (common_read_as_json hpatches).2.2 _ rfl (by simp)

/-- A tab is a gap in JSON, but starts no token of a document. -/
theorem tab_refused : Json.read "[\t]" = .ok (.arr []) ∧ Lists (.arr []) []
    ∧ products (.ok "[\t]".toUTF8) = .error (.document .malformed) :=
  ⟨rfl, .list .nil, rfl⟩

end ClientScribe.Config
