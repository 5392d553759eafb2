import NetworkLantern.Lib.XmlScan
import NetworkLantern.Tuning.QosXml

/-!
# Round trip of the QoS artifact

The text that `qosXml` writes is a block of XML tokens (`renderAll_qosTokens`), so
a lawful reader delivers its events.  A special character becomes an entity
reference there, and the event loop refuses it; without one, the loop gives
back every property trimmed (`run_qosTokens`).

    parseQosClixml_eq_ok          what an accepted artifact of the writer contains
    parseQosClixml_qosXml_iff     exactly when it contains what was written
-/

namespace NetworkLantern.Tuning

open NetworkLantern XmlToken

/-! ## The tokens of the writer -/

/-- Character data with its special characters as entity references. -/
def valueTokens : Str → List XmlToken
  | [] => []
  | c :: cs =>
    match escapeEntity c, valueTokens cs with
    | some entity, rest => .ref entity :: rest
    | none, .text data :: rest => .text (c :: data) :: rest
    | none, rest => .text [c] :: rest

def element (tag : String) (inner : List XmlToken) : List XmlToken :=
  .start tag.toList none :: inner ++ [.close tag.toList]

def fieldTokens (field : Str × Str) : List XmlToken :=
  .start "S".toList (some ("N".toList, field.1)) :: valueTokens field.2 ++ [.close "S".toList]

def policyTokens (policy : QosPolicySpec) : List XmlToken :=
  element "Obj" (element "MS" ((policyFields policy).flatMap fieldTokens))

def qosTokens (policies : List QosPolicySpec) : List XmlToken :=
  element "Objs" (element "LST" (policies.flatMap policyTokens))

theorem renderAll_append (a b : List XmlToken) : renderAll (a ++ b) = renderAll a ++ renderAll b := by
  simp [renderAll]

theorem renderAll_cons (t : XmlToken) (doc : List XmlToken) :
    renderAll (t :: doc) = t.render ++ renderAll doc := rfl

theorem renderAll_flatMap {α : Type} (f : α → List XmlToken) (l : List α) :
    renderAll (l.flatMap f) = l.flatMap fun a => renderAll (f a) := by
  simp [renderAll, List.flatMap_assoc]

theorem valueTokens_special {c : Char} {entity : Str} (h : escapeEntity c = some entity) (cs : Str) :
    valueTokens (c :: cs) = .ref entity :: valueTokens cs := by
  simp only [valueTokens, h]

/-- A plain character joins the text behind it. -/
theorem valueTokens_plain {c : Char} (h : escapeEntity c = none) (cs : Str) :
    (∃ data rest, valueTokens cs = .text data :: rest ∧
      valueTokens (c :: cs) = .text (c :: data) :: rest) ∨
    (∀ t ∈ (valueTokens cs).head?, t.isText = false) ∧
      valueTokens (c :: cs) = .text [c] :: valueTokens cs := by
  rcases ht : valueTokens cs with _ | ⟨t, rest⟩
  · exact Or.inr ⟨by simp, by simp only [valueTokens, h, ht]⟩
  · cases t with
    | text data => exact Or.inl ⟨data, rest, rfl, by simp only [valueTokens, h, ht]⟩
    | start tag attr => exact Or.inr ⟨by simp [isText], by simp only [valueTokens, h, ht]⟩
    | ref name => exact Or.inr ⟨by simp [isText], by simp only [valueTokens, h, ht]⟩
    | close tag => exact Or.inr ⟨by simp [isText], by simp only [valueTokens, h, ht]⟩

theorem renderAll_valueTokens (s : Str) : renderAll (valueTokens s) = s.flatMap escapeChar := by
  induction s with
  | nil => rfl
  | cons c cs ih =>
    rw [List.flatMap_cons, ← ih]
    cases he : escapeEntity c with
    | some entity =>
      rw [valueTokens_special he, renderAll_cons]
      simp only [escapeChar, he, render]
    | none =>
      rcases valueTokens_plain he cs with ⟨data, rest, hcs, h⟩ | ⟨-, h⟩
      · rw [h, hcs]
        simp only [renderAll_cons, escapeChar, he, render, List.cons_append, List.nil_append]
      · rw [h, renderAll_cons]
        simp only [escapeChar, he, render]

theorem renderAll_fieldTokens (field : Str × Str) :
    renderAll (fieldTokens field) = xmlField field.1 field.2 := by
  have hstart : (XmlToken.start "S".toList (some ("N".toList, field.1))).render =
      "<S N=\"".toList ++ field.1 ++ "\">".toList := by
    have hopen : "<S N=\"".toList = '<' :: "S".toList ++ ' ' :: "N".toList ++ ['=', '"'] := rfl
    have hclose : "\">".toList = ['"', '>'] := rfl
    rw [hopen, hclose]
    simp only [render, List.append_assoc, List.cons_append, List.nil_append]
  have hend : renderAll [.close "S".toList] = "</S>".toList := rfl
  unfold fieldTokens xmlField
  rw [renderAll_append, renderAll_cons, renderAll_valueTokens, hstart, hend]

theorem renderAll_element (tag : String) (inner : List XmlToken) :
    renderAll (element tag inner) =
      '<' :: tag.toList ++ ['>'] ++ renderAll inner ++ '<' :: '/' :: tag.toList ++ ['>'] := by
  have hend : renderAll [.close tag.toList] = '<' :: '/' :: tag.toList ++ ['>'] :=
    List.append_nil _
  unfold element
  rw [renderAll_append, renderAll_cons, hend]
  simp only [render, List.append_assoc, List.cons_append]

theorem renderAll_policyTokens (policy : QosPolicySpec) :
    renderAll (policyTokens policy) = "<Obj><MS>".toList ++
      (policyFields policy).flatMap (fun field => xmlField field.1 field.2) ++
        "</MS></Obj>".toList := by
  have hopen : "<Obj><MS>".toList = '<' :: "Obj".toList ++ ['>'] ++ ('<' :: "MS".toList ++ ['>']) :=
    rfl
  have hclose : "</MS></Obj>".toList =
      '<' :: '/' :: "MS".toList ++ ['>'] ++ ('<' :: '/' :: "Obj".toList ++ ['>']) := rfl
  unfold policyTokens
  rw [renderAll_element, renderAll_element, renderAll_flatMap, hopen, hclose]
  simp only [renderAll_fieldTokens, List.append_assoc, List.cons_append, List.nil_append]

theorem renderAll_qosTokens (policies : List QosPolicySpec) :
    renderAll (qosTokens policies) = qosXml policies := by
  have hopen : "<Objs><LST>".toList =
      '<' :: "Objs".toList ++ ['>'] ++ ('<' :: "LST".toList ++ ['>']) := rfl
  have hclose : "</LST></Objs>".toList =
      '<' :: '/' :: "LST".toList ++ ['>'] ++ ('<' :: '/' :: "Objs".toList ++ ['>']) := rfl
  unfold qosTokens qosXml
  rw [renderAll_element, renderAll_element, renderAll_flatMap, hopen, hclose]
  simp only [renderAll_policyTokens, List.append_assoc, List.cons_append, List.nil_append]

/-! ## The tokens are a block -/

theorem escapeEntity_isPlain {c : Char} {entity : Str} (h : escapeEntity c = some entity) :
    isPlain entity = true := by
  unfold escapeEntity at h
  repeat' split at h
  all_goals first | (cases h; decide) | cases h

theorem escapeEntity_none {c : Char} (h : escapeEntity c = none) : c ≠ '<' ∧ c ≠ '&' := by
  constructor
  · rintro rfl; exact absurd h (by decide)
  · rintro rfl; exact absurd h (by decide)

theorem valueTokens_content (s : Str) : Content (valueTokens s) := by
  induction s with
  | nil => exact Block.nil.toContent
  | cons c cs ih =>
    cases he : escapeEntity c with
    | some entity =>
      rw [valueTokens_special he]
      refine ⟨?_, fun open_ => ih.nested open_, ?_⟩
      · intro t ht
        rcases List.mem_cons.mp ht with rfl | ht
        · exact escapeEntity_isPlain he
        · exact ih.wellFormed t ht
      · rcases hcs : valueTokens cs with _ | ⟨t, rest⟩
        · exact List.isChain_singleton _
        · exact List.isChain_cons_cons.mpr ⟨rfl, hcs ▸ ih.separated⟩
    | none =>
      obtain ⟨hlt, hamp⟩ := escapeEntity_none he
      rcases valueTokens_plain he cs with ⟨data, rest, hcs, h⟩ | ⟨hhead, h⟩
      · rw [hcs] at ih
        rw [h]
        refine ⟨?_, fun open_ => ih.nested open_, ?_⟩
        · intro t ht
          rcases List.mem_cons.mp ht with rfl | ht
          · have hdata : isCharData data = true := ih.wellFormed _ List.mem_cons_self
            simp only [isCharData, Bool.and_eq_true, List.all_eq_true] at hdata
            simp only [WellFormed, isCharData, Bool.and_eq_true, List.all_eq_true, List.isEmpty_cons,
              Bool.not_false, List.forall_mem_cons]
            exact ⟨trivial, by simp [hlt, hamp], hdata.2⟩
          · exact ih.wellFormed t (List.mem_cons_of_mem _ ht)
        · have hs := ih.separated
          cases rest with
          | nil => exact List.isChain_singleton _
          | cons t rest =>
            obtain ⟨h1, h2⟩ := List.isChain_cons_cons.mp hs
            exact List.isChain_cons_cons.mpr ⟨h1, h2⟩
      · rw [h]
        refine ⟨?_, fun open_ => ih.nested open_, ?_⟩
        · intro t ht
          rcases List.mem_cons.mp ht with rfl | ht
          · simp [WellFormed, isCharData, hlt, hamp]
          · exact ih.wellFormed t ht
        · rcases hcs : valueTokens cs with _ | ⟨t, rest⟩
          · exact List.isChain_singleton _
          · have ht : t.isText = false := hhead t (by rw [hcs]; rfl)
            refine List.isChain_cons_cons.mpr ⟨by rw [ht, Bool.and_false], hcs ▸ ih.separated⟩

theorem element_block {tag : String} (ht : isPlain tag.toList = true) {inner : List XmlToken}
    (h : Content inner) : Block (element tag inner) := Block.element ht ht h

theorem policyFields_plain (policy : QosPolicySpec) :
    ∀ field ∈ policyFields policy, isPlain field.1 = true := by
  cases policy <;> simp only [policyFields, List.mem_cons, List.not_mem_nil, or_false] <;>
    (intro field hf; rcases hf with rfl | rfl | rfl | rfl | rfl <;> rfl)

theorem policyTokens_block (policy : QosPolicySpec) : Block (policyTokens policy) := by
  have hfields : Block ((policyFields policy).flatMap fieldTokens) :=
    Block.flatMap fun field hf => Block.element ⟨rfl, rfl, policyFields_plain policy field hf⟩ rfl
      (valueTokens_content field.2)
  exact element_block rfl (element_block rfl hfields.toContent).toContent

theorem qosTokens_block (policies : List QosPolicySpec) : Block (qosTokens policies) :=
  element_block rfl (element_block rfl
    (Block.flatMap fun policy _ => policyTokens_block policy).toContent).toContent

/-! ## The event loop on what the reader delivers -/

/-- No character that the writer escapes. -/
def Unescaped (s : Str) : Prop := ∀ c ∈ s, escapeEntity c = none

instance (s : Str) : Decidable (Unescaped s) := List.decidableBAll _ _

theorem valueTokens_unescaped {s : Str} (h : Unescaped s) :
    valueTokens s = if s = [] then [] else [.text s] := by
  induction s with
  | nil => rfl
  | cons c cs ih =>
    have ih := ih fun d hd => h d (List.mem_cons_of_mem c hd)
    rw [if_neg (List.cons_ne_nil c cs)]
    rcases valueTokens_plain (h c List.mem_cons_self) cs with ⟨data, rest, hcs, he⟩ | ⟨hhead, he⟩
    · rw [hcs] at ih
      split at ih
      · cases ih
      · cases ih; exact he
    · rw [he]
      split at ih
      · next hnil => rw [ih, hnil]
      · rw [ih] at hhead
        exact absurd (hhead _ rfl) (by simp [isText])

theorem ref_mem_valueTokens {s : Str} (h : ¬ Unescaped s) : ∃ name, .ref name ∈ valueTokens s := by
  induction s with
  | nil => exact absurd (by intro c hc; cases hc) h
  | cons c cs ih =>
    cases he : escapeEntity c with
    | some entity => exact ⟨entity, by rw [valueTokens_special he]; exact List.mem_cons_self⟩
    | none =>
      have hcs : ¬ Unescaped cs := by
        intro hcs
        refine h fun d hd => ?_
        rcases List.mem_cons.mp hd with rfl | hd
        · exact he
        · exact hcs d hd
      obtain ⟨name, hm⟩ := ih hcs
      refine ⟨name, ?_⟩
      rcases valueTokens_plain he cs with ⟨data, rest, htokens, ht⟩ | ⟨-, ht⟩
      · rw [htokens] at hm
        rw [ht]
        rcases List.mem_cons.mp hm with hm | hm
        · cases hm
        · exact List.mem_cons_of_mem _ hm
      · rw [ht]
        exact List.mem_cons_of_mem _ hm

/-- The loop refuses an entity reference wherever it stands. -/
theorem run_generalRef {stream : List XmlEvent} {name : Str} (h : .generalRef name ∈ stream)
    (st st' : ClixmlState) : st.run stream ≠ .ok st' := by
  induction stream generalizing st with
  | nil => cases h
  | cons event stream ih =>
    intro hrun
    obtain ⟨st1, hstep, hrest⟩ := except_bind_ok.mp hrun
    rcases List.mem_cons.mp h with rfl | h
    · cases hstep
    · exact ih h st1 hrest

/-- A text the loop takes into a property: no special character, not too long once trimmed. -/
def Delivered (s : Str) : Prop := Unescaped s ∧ (trimSpace s).byteLen ≤ maxPropertyBytes

theorem run_value {stack : List Str} {item : PropertyBag} {items : List PropertyBag}
    {name value : Str} {st : ClixmlState} :
    ClixmlState.run ⟨stack, some item, some (name, []), items⟩ ((valueTokens value).flatMap events) =
        .ok st ↔
      Delivered value ∧ st = ⟨stack, some item, some (name, trimSpace value), items⟩ := by
  by_cases hu : Unescaped value
  · rw [valueTokens_unescaped hu]
    split
    · next hnil =>
      subst hnil
      rw [List.flatMap_nil, ClixmlState.run_nil]
      exact ⟨fun h => ⟨⟨hu, Nat.zero_le _⟩, h⟩, fun h => h.2⟩
    · rw [List.flatMap_singleton, events]
      split
      · next hnil =>
        have hnil := List.isEmpty_iff.mp hnil
        rw [ClixmlState.run_nil, hnil]
        refine ⟨fun h => ⟨⟨hu, ?_⟩, h⟩, fun h => h.2⟩
        rw [hnil]
        exact Nat.zero_le _
      · have hstep : ClixmlState.run ⟨stack, some item, some (name, []), items⟩
            [.text (some (trimSpace value))] =
              if maxPropertyBytes < 0 + (trimSpace value).byteLen then
                invalid "QoS CLIXML property is too long"
              else .ok ⟨stack, some item, some (name, trimSpace value), items⟩ := by
          unfold ClixmlState.run
          rw [List.foldlM_cons]
          show ((if maxPropertyBytes < 0 + (trimSpace value).byteLen then _ else _) >>= _) = _
          split <;> rfl
        rw [hstep]
        split
        · next hlong =>
          refine ⟨fun h => (by cases h), fun h => ?_⟩
          have := h.1.2
          omega
        · next hshort =>
          refine ⟨fun h => ?_, fun h => by rw [h.2]⟩
          cases h
          exact ⟨⟨hu, by omega⟩, rfl⟩
  · obtain ⟨entity, he⟩ := ref_mem_valueTokens hu
    have hm : XmlEvent.generalRef entity ∈ (valueTokens value).flatMap events :=
      List.mem_flatMap.mpr ⟨_, he, List.mem_singleton_self _⟩
    exact ⟨fun h => absurd h (run_generalRef hm _ _), fun h => absurd h.1.1 hu⟩

/-- A field becomes a property, its text trimmed. -/
theorem run_field {stack : List Str} {item : PropertyBag} {items : List PropertyBag}
    {field : Str × Str} {st : ClixmlState} (hdepth : stack.length < maxXmlDepth)
    (hnew : item.lookup field.1 = none) :
    ClixmlState.run ⟨stack, some item, none, items⟩ ((fieldTokens field).flatMap events) = .ok st ↔
      Delivered field.2 ∧ st = ⟨stack, some (item ++ [(field.1, trimSpace field.2)]), none, items⟩ := by
  have hopen : ClixmlState.step ⟨stack, some item, none, items⟩
      (.start "S".toList [.pair "N".toList (some field.1)]) =
        .ok ⟨"S".toList :: stack, some item, some (field.1, []), items⟩ := by
    have hbad : (decide (maxXmlDepth ≤ stack.length) || !allowedXmlTag "S".toList) = false := by
      simp only [Bool.or_eq_false_iff, decide_eq_false_iff_not]
      exact ⟨by omega, rfl⟩
    show (refuse _ _ >>= _) = _
    rw [hbad]
    rfl
  have hclose : ∀ text, ClixmlState.step ⟨"S".toList :: stack, some item, some (field.1, text), items⟩
      (.close "S".toList) = .ok ⟨stack, some (item ++ [(field.1, text)]), none, items⟩ := by
    intro text
    show (ClixmlState.endScalar ⟨stack, some item, some (field.1, text), items⟩ "S".toList >>= _) = _
    have hend : ClixmlState.endScalar ⟨stack, some item, some (field.1, text), items⟩ "S".toList =
        .ok ⟨stack, some (item ++ [(field.1, text)]), none, items⟩ := by
      show (if (item.lookup field.1).isSome = true then _ else _) = _
      rw [hnew]
      rfl
    rw [hend]
    rfl
  have hevents : (fieldTokens field).flatMap events =
      .start "S".toList [.pair "N".toList (some field.1)] ::
        ((valueTokens field.2).flatMap events ++ [.close "S".toList]) := by
    simp only [fieldTokens, List.cons_append, List.flatMap_cons, List.flatMap_append, events]
    rfl
  rw [hevents, ClixmlState.run_cons hopen, ClixmlState.run_append]
  simp only [run_value]
  constructor
  · rintro ⟨_, ⟨hd, rfl⟩, h⟩
    rw [ClixmlState.run_cons (hclose _), ClixmlState.run_nil] at h
    exact ⟨hd, h⟩
  · rintro ⟨hd, rfl⟩
    exact ⟨_, ⟨hd, rfl⟩, by rw [ClixmlState.run_cons (hclose _), ClixmlState.run_nil]⟩

/-- The properties of an item as the reader delivers them. -/
def trimmedFields (fields : List (Str × Str)) : PropertyBag :=
  fields.map fun field => (field.1, trimSpace field.2)

theorem run_fields {stack : List Str} {items : List PropertyBag} (hdepth : stack.length < maxXmlDepth)
    (fields : List (Str × Str)) (item : PropertyBag) {st : ClixmlState}
    (hkeys : (item.map Prod.fst ++ fields.map Prod.fst).Nodup) :
    ClixmlState.run ⟨stack, some item, none, items⟩ ((fields.flatMap fieldTokens).flatMap events) =
        .ok st ↔
      (∀ field ∈ fields, Delivered field.2) ∧
        st = ⟨stack, some (item ++ trimmedFields fields), none, items⟩ := by
  induction fields generalizing item with
  | nil => simp [trimmedFields, ClixmlState.run_nil]
  | cons field fields ih =>
    have hnew : item.lookup field.1 = none := by
      rw [List.lookup_eq_none_iff]
      intro entry he
      have := (List.nodup_append.mp hkeys).2.2 entry.1 (List.mem_map_of_mem he) field.1 (by simp)
      simpa using this.symm
    rw [List.flatMap_cons, List.flatMap_append, ClixmlState.run_append]
    simp only [run_field hdepth hnew, List.forall_mem_cons]
    have ih := ih (item ++ [(field.1, trimSpace field.2)]) (by simpa using hkeys)
    constructor
    · rintro ⟨_, ⟨hd, rfl⟩, h⟩
      obtain ⟨hds, rfl⟩ := ih.mp h
      exact ⟨⟨hd, hds⟩, by simp [trimmedFields]⟩
    · rintro ⟨⟨hd, hds⟩, rfl⟩
      exact ⟨_, ⟨hd, rfl⟩, ih.mpr ⟨hds, by simp [trimmedFields]⟩⟩

theorem policyFields_keys (policy : QosPolicySpec) : ((policyFields policy).map Prod.fst).Nodup := by
  cases policy with
  | port =>
    show ["Name".toList, "Type".toList, "Protocol".toList, "Port".toList, "Dscp".toList].Nodup
    decide
  | app =>
    show ["Name".toList, "Type".toList, "AppPath".toList, "Dscp".toList].Nodup
    decide

/-- A policy becomes an item. -/
theorem run_policy {policy : QosPolicySpec} {items : List PropertyBag} {st : ClixmlState} :
    ClixmlState.run ⟨["LST".toList, "Objs".toList], none, none, items⟩
        ((policyTokens policy).flatMap events) = .ok st ↔
      (∀ field ∈ policyFields policy, Delivered field.2) ∧ items.length < maxQosPolicies ∧
        st = ⟨["LST".toList, "Objs".toList], none, none,
          items ++ [trimmedFields (policyFields policy)]⟩ := by
  have hevents : (policyTokens policy).flatMap events =
      .start "Obj".toList [] :: .start "MS".toList [] ::
        (((policyFields policy).flatMap fieldTokens).flatMap events ++
          [.close "MS".toList, .close "Obj".toList]) := by
    simp only [policyTokens, element, List.cons_append, List.flatMap_cons, List.flatMap_append,
      events, List.append_assoc]
    rfl
  have hobj : ClixmlState.step ⟨["LST".toList, "Objs".toList], none, none, items⟩
      (.start "Obj".toList []) =
        .ok ⟨["Obj".toList, "LST".toList, "Objs".toList], none, none, items⟩ := rfl
  have hms : ClixmlState.step ⟨["Obj".toList, "LST".toList, "Objs".toList], none, none, items⟩
      (.start "MS".toList []) =
        .ok ⟨["MS".toList, "Obj".toList, "LST".toList, "Objs".toList], some [], none, items⟩ := rfl
  have hend : ∀ item, ClixmlState.run
      ⟨["MS".toList, "Obj".toList, "LST".toList, "Objs".toList], some item, none, items⟩
      [.close "MS".toList, .close "Obj".toList] =
        if maxQosPolicies < items.length + 1 then
          invalid "QoS CLIXML has more than 512 policies"
        else .ok ⟨["LST".toList, "Objs".toList], none, none, items ++ [item]⟩ := by
    intro item
    unfold ClixmlState.run
    rw [List.foldlM_cons]
    show ((if maxQosPolicies < items.length + 1 then _ else _) >>= _) = _
    split <;> rfl
  rw [hevents, ClixmlState.run_cons hobj, ClixmlState.run_cons hms, ClixmlState.run_append]
  have hfields := fun st => @run_fields ["MS".toList, "Obj".toList, "LST".toList, "Objs".toList] items
    (by decide) (policyFields policy) [] st (by simpa using policyFields_keys policy)
  simp only [hfields]
  constructor
  · rintro ⟨_, ⟨hd, rfl⟩, h⟩
    rw [hend] at h
    split at h
    · cases h
    · cases h
      exact ⟨hd, by omega, rfl⟩
  · rintro ⟨hd, hcount, rfl⟩
    refine ⟨_, ⟨hd, rfl⟩, ?_⟩
    rw [hend, if_neg (by omega)]
    rfl

theorem run_policies (policies : List QosPolicySpec) (items : List PropertyBag) {st : ClixmlState} :
    ClixmlState.run ⟨["LST".toList, "Objs".toList], none, none, items⟩
        ((policies.flatMap policyTokens).flatMap events) = .ok st ↔
      (∀ policy ∈ policies, ∀ field ∈ policyFields policy, Delivered field.2) ∧
        (policies ≠ [] → items.length + policies.length ≤ maxQosPolicies) ∧
        st = ⟨["LST".toList, "Objs".toList], none, none,
          items ++ policies.map fun policy => trimmedFields (policyFields policy)⟩ := by
  induction policies generalizing items with
  | nil => simp [ClixmlState.run_nil]
  | cons policy policies ih =>
    rw [List.flatMap_cons, List.flatMap_append, ClixmlState.run_append]
    simp only [run_policy, List.forall_mem_cons]
    constructor
    · rintro ⟨_, ⟨hd, hcount, rfl⟩, h⟩
      obtain ⟨hds, hn, rfl⟩ := (ih _).mp h
      refine ⟨⟨hd, hds⟩, fun _ => ?_, by simp⟩
      cases policies with
      | nil => exact hcount
      | cons p ps =>
        have := hn (List.cons_ne_nil p ps)
        simp only [List.length_append, List.length_cons, List.length_nil] at this ⊢
        omega
    · rintro ⟨⟨hd, hds⟩, hn, rfl⟩
      have hn := hn (List.cons_ne_nil _ _)
      simp only [List.length_cons] at hn
      refine ⟨_, ⟨hd, by omega, rfl⟩, (ih _).mpr ⟨hds, fun _ => ?_, by simp⟩⟩
      simp only [List.length_append, List.length_cons, List.length_nil]
      omega

/-- The loop on a whole artifact. -/
theorem run_qosTokens (policies : List QosPolicySpec) {st : ClixmlState} :
    ClixmlState.initial.run ((qosTokens policies).flatMap events) = .ok st ↔
      (∀ policy ∈ policies, ∀ field ∈ policyFields policy, Delivered field.2) ∧
        policies.length ≤ maxQosPolicies ∧
        st = ⟨[], none, none, policies.map fun policy => trimmedFields (policyFields policy)⟩ := by
  have hevents : (qosTokens policies).flatMap events =
      .start "Objs".toList [] :: .start "LST".toList [] ::
        ((policies.flatMap policyTokens).flatMap events ++
          [.close "LST".toList, .close "Objs".toList]) := by
    simp only [qosTokens, element, List.cons_append, List.flatMap_cons, List.flatMap_append,
      events, List.append_assoc]
    rfl
  have hobjs : ClixmlState.initial.step (.start "Objs".toList []) =
      .ok ⟨["Objs".toList], none, none, []⟩ := rfl
  have hlst : ClixmlState.step ⟨["Objs".toList], none, none, []⟩ (.start "LST".toList []) =
      .ok ⟨["LST".toList, "Objs".toList], none, none, []⟩ := rfl
  have hend : ∀ items, ClixmlState.run ⟨["LST".toList, "Objs".toList], none, none, items⟩
      [.close "LST".toList, .close "Objs".toList] = .ok ⟨[], none, none, items⟩ := fun _ => rfl
  have hcount : (policies ≠ [] → 0 + policies.length ≤ maxQosPolicies) ↔
      policies.length ≤ maxQosPolicies := by
    cases policies <;> simp
  rw [hevents, ClixmlState.run_cons hobjs, ClixmlState.run_cons hlst, ClixmlState.run_append]
  simp only [run_policies, List.length_nil, hcount, List.nil_append]
  constructor
  · rintro ⟨_, ⟨hd, hn, rfl⟩, h⟩
    rw [hend] at h
    cases h
    exact ⟨hd, hn, rfl⟩
  · rintro ⟨hd, hn, rfl⟩
    exact ⟨_, ⟨hd, hn, rfl⟩, hend _⟩

/-! ## What a written artifact reads back as -/

/-- A policy with its texts as the reader trims them. -/
def trimmedPolicy : QosPolicySpec → QosPolicySpec
  | .port name protocol port dscp => .port (trimSpace name) (trimSpace protocol) port dscp
  | .app name appPath dscp => .app (trimSpace name) (trimSpace appPath) dscp

theorem isDigit_plain {c : Char} (h : c.isDigit) : escapeEntity c = none ∧ isXmlSpace c = false := by
  have hne : ∀ d : Char, d.isDigit = false → c ≠ d := by
    rintro d hd rfl
    rw [hd] at h
    cases h
  constructor
  · unfold escapeEntity
    rw [if_neg (hne _ rfl), if_neg (hne _ rfl), if_neg (hne _ rfl), if_neg (hne _ rfl),
      if_neg (hne _ rfl)]
  · unfold isXmlSpace
    simp [hne ' ' rfl, hne '\t' rfl, hne '\r' rfl, hne '\n' rfl]

/-- A text that the round trip gives back: nothing escaped and nothing trimmed. -/
def Survives (s : Str) : Prop := Unescaped s ∧ trimSpace s = s

instance : DecidablePred Survives := fun _ => inferInstanceAs (Decidable (_ ∧ _))

theorem survives_decimal (n : Nat) : Survives (decimal n) := by
  have h : ∀ c ∈ decimal n, escapeEntity c = none ∧ isXmlSpace c = false := fun c hc =>
    isDigit_plain (isDigit_of_mem_decimal hc)
  refine ⟨fun c hc => (h c hc).1, (Str.trimMatches_eq_self_iff _ _).mpr ⟨?_, ?_⟩⟩
  · exact fun c hc => (h c (List.mem_of_mem_head? hc)).2
  · exact fun c hc => (h c (List.mem_of_mem_getLast? hc)).2

theorem trimmedFields_policyFields (policy : QosPolicySpec) :
    trimmedFields (policyFields policy) = policyFields (trimmedPolicy policy) := by
  have hport : trimSpace "Port".toList = "Port".toList := by decide
  have happ : trimSpace "App".toList = "App".toList := by decide
  cases policy <;> simp only [trimmedFields, policyFields, trimmedPolicy, List.map_cons, List.map_nil,
    (survives_decimal _).2, hport, happ]

/-- The checks on the items of a written artifact. -/
theorem collectPolicies_fields (policies result : List QosPolicySpec) (seen : List Str) :
    collectPolicies seen (policies.map policyFields) = .ok result ↔
      result = policies ∧
        (∀ policy ∈ policies, managedName policy.name = true ∧ NormalMatch policy) ∧
        (policies.map fun policy => policy.name.lower).Nodup ∧
        ∀ policy ∈ policies, policy.name.lower ∉ seen := by
  induction policies generalizing seen result with
  | nil =>
    constructor
    · intro h
      cases h
      simp
    · rintro ⟨rfl, -⟩
      rfl
  | cons policy policies ih =>
    rw [List.map_cons, collectPolicies, except_bind_ok]
    simp only [normalizeQos_fields, List.forall_mem_cons, List.map_cons, List.nodup_cons]
    constructor
    · rintro ⟨p, ⟨rfl, hm⟩, h⟩
      obtain ⟨hseen, h⟩ := refuse_bind_ok.mp h
      obtain ⟨rest, hrest, hr⟩ := except_bind_ok.mp h
      cases hr
      obtain ⟨rfl, hms, hnd, hns⟩ := (ih _ _).mp hrest
      refine ⟨rfl, ⟨hm, hms⟩, ⟨?_, hnd⟩, by simpa using hseen, fun q hq h => ?_⟩
      · intro hmem
        obtain ⟨q, hq, he⟩ := List.mem_map.mp hmem
        exact hns q hq (by rw [he]; exact List.mem_cons_self)
      · exact hns q hq (List.mem_cons_of_mem _ h)
    · rintro ⟨rfl, ⟨hm, hms⟩, ⟨hnew, hnd⟩, hseen, hns⟩
      refine ⟨policy, ⟨rfl, hm⟩, refuse_bind_ok.mpr ⟨by simpa using hseen,
        except_bind_ok.mpr ⟨policies, (ih _ _).mpr ⟨rfl, hms, hnd, ?_⟩, rfl⟩⟩⟩
      intro q hq h
      rcases List.mem_cons.mp h with h | h
      · exact hnew (h ▸ List.mem_map_of_mem hq)
      · exact hns q hq h

/-- The text of the artifact and its bytes. -/
theorem parseQosClixml_bytes (reader : XmlReader) (hr : reader.Lawful)
    (policies result : List QosPolicySpec) :
    parseQosClixml reader (qosXml policies).bytes = .ok result ↔
      (qosXml policies).byteLen ≤ maxQosBytes ∧
        (∀ policy ∈ policies, ∀ field ∈ policyFields policy, Delivered field.2) ∧
        policies.length ≤ maxQosPolicies ∧
        collectPolicies [] (policies.map fun policy => policyFields (trimmedPolicy policy)) =
          .ok result := by
  have hbom : (qosXml policies).dropWhile (· = '\ufeff') = qosXml policies := rfl
  unfold parseQosClixml
  rw [Str.length_bytes, Str.fromUtf8_bytes]
  simp only [hbom]
  split
  · next hlong =>
    exact ⟨fun h => (by cases h), fun h => absurd h.1 (by omega)⟩
  · next hshort =>
    rw [← renderAll_qosTokens, hr.read (qosTokens_block policies), except_bind_ok]
    simp only [run_qosTokens, trimmedFields_policyFields]
    constructor
    · rintro ⟨_, ⟨hd, hn, rfl⟩, h⟩
      obtain ⟨-, h⟩ := refuse_bind_ok.mp h
      exact ⟨by rw [renderAll_qosTokens]; omega, hd, hn, h⟩
    · rintro ⟨-, hd, hn, h⟩
      exact ⟨_, ⟨hd, hn, rfl⟩, refuse_bind_ok.mpr ⟨rfl, h⟩⟩

/-- What the reader gives back for the text of the writer: every policy trimmed, once all
texts are delivered and the trimmed policies pass the validator. -/
theorem parseQosClixml_eq_ok {reader : XmlReader} (hr : reader.Lawful)
    {policies result : List QosPolicySpec} :
    parseQosClixml reader (qosXml policies).bytes = .ok result ↔
      (qosXml policies).byteLen ≤ maxQosBytes ∧
        (∀ policy ∈ policies, ∀ field ∈ policyFields policy, Delivered field.2) ∧
        policies.length ≤ maxQosPolicies ∧ result = policies.map trimmedPolicy ∧
        (∀ policy ∈ result, managedName policy.name = true ∧ NormalMatch policy) ∧
        (result.map fun policy => policy.name.lower).Nodup := by
  have hmap : (policies.map fun policy => policyFields (trimmedPolicy policy)) =
      (policies.map trimmedPolicy).map policyFields := by simp
  rw [parseQosClixml_bytes reader hr, hmap, collectPolicies_fields]
  constructor
  · rintro ⟨hs, hd, hn, rfl, hm, hnd, -⟩
    exact ⟨hs, hd, hn, rfl, hm, hnd⟩
  · rintro ⟨hs, hd, hn, rfl, hm, hnd⟩
    exact ⟨hs, hd, hn, rfl, hm, hnd, by simp⟩

/-! ## When nothing is lost -/

/-- The texts of a policy that the machine chooses freely. -/
def policyTexts : QosPolicySpec → List Str
  | .port name .. => [name]
  | .app name appPath _ => [name, appPath]

theorem survives_protocol {protocol : Str} (h : protocol = "TCP".toList ∨ protocol = "UDP".toList) :
    Survives protocol := by
  rcases h with rfl | rfl <;> decide +kernel

/-- The other properties always come back. -/
theorem survives_fields {policy : QosPolicySpec} (hn : NormalMatch policy) :
    (∀ field ∈ policyFields policy, Survives field.2) ↔ ∀ s ∈ policyTexts policy, Survives s := by
  have hport : Survives "Port".toList := by decide +kernel
  have happ : Survives "App".toList := by decide +kernel
  cases policy with
  | port name protocol port dscp =>
    simp only [policyFields, policyTexts, List.forall_mem_cons, survives_decimal, hport,
      survives_protocol hn.1, List.not_mem_nil, false_implies, implies_true, true_and]
  | app name appPath dscp =>
    simp only [policyFields, policyTexts, List.forall_mem_cons, survives_decimal, happ,
      List.not_mem_nil, false_implies, implies_true, and_true, true_and]

theorem trimmedPolicy_eq_self_iff {policy : QosPolicySpec} (hn : NormalMatch policy) :
    trimmedPolicy policy = policy ↔ ∀ s ∈ policyTexts policy, trimSpace s = s := by
  cases policy with
  | port name protocol port dscp =>
    simp [trimmedPolicy, policyTexts, (survives_protocol hn.1).2]
  | app name appPath dscp => simp [trimmedPolicy, policyTexts]

/-- The texts of a policy are among its properties. -/
theorem mem_policyFields_of_text {policy : QosPolicySpec} {s : Str} (h : s ∈ policyTexts policy) :
    ∃ field ∈ policyFields policy, field.2 = s := by
  cases policy with
  | port name protocol port dscp =>
    simp only [policyTexts, List.mem_singleton] at h
    exact ⟨_, List.mem_cons_self, h.symm⟩
  | app name appPath dscp =>
    simp only [policyTexts, List.mem_cons, List.not_mem_nil, or_false] at h
    rcases h with rfl | rfl
    · exact ⟨_, List.mem_cons_self, rfl⟩
    · exact ⟨("AppPath".toList, _), by simp [policyFields], rfl⟩

/-- No artifact with a special character in a text is read. -/
theorem unescaped_of_parse {reader : XmlReader} (hr : reader.Lawful)
    {policies result : List QosPolicySpec}
    (h : parseQosClixml reader (qosXml policies).bytes = .ok result) :
    ∀ policy ∈ policies, ∀ s ∈ policyTexts policy, Unescaped s := by
  obtain ⟨-, hd, -⟩ := (parseQosClixml_eq_ok hr).mp h
  intro policy hp s hs
  obtain ⟨field, hf, rfl⟩ := mem_policyFields_of_text hs
  exact (hd policy hp field hf).1

theorem parseQosClixml_of_survives {reader : XmlReader} (hr : reader.Lawful)
    {policies : List QosPolicySpec}
    (hnormal : ∀ policy ∈ policies, managedName policy.name = true ∧ NormalMatch policy)
    (hcount : policies.length ≤ maxQosPolicies)
    (hnames : (policies.map fun policy => policy.name.lower).Nodup)
    (hsize : (qosXml policies).byteLen ≤ maxQosBytes)
    (htexts : ∀ policy ∈ policies, ∀ field ∈ policyFields policy,
      field.2.byteLen ≤ maxPropertyBytes)
    (h : ∀ policy ∈ policies, ∀ s ∈ policyTexts policy, Survives s) :
    parseQosClixml reader (qosXml policies).bytes = .ok policies := by
  have hself : policies.map trimmedPolicy = policies := by
    refine (List.map_congr_left fun policy hp => ?_).trans (List.map_id policies)
    exact (trimmedPolicy_eq_self_iff (hnormal policy hp).2).mpr fun s hs => (h policy hp s hs).2
  refine (parseQosClixml_eq_ok hr).mpr
    ⟨hsize, fun policy hp field hf => ?_, hcount, hself.symm, hnormal, hnames⟩
  obtain ⟨hu, ht⟩ := (survives_fields (hnormal policy hp).2).mpr (h policy hp) field hf
  exact ⟨hu, by rw [ht]; exact htexts policy hp field hf⟩

/-- The round trip of policies the inventory can return. -/
theorem parseQosClixml_qosXml_iff {reader : XmlReader} (hr : reader.Lawful)
    {policies : List QosPolicySpec} {restoreNames : List Str}
    (hrows : ∀ policy ∈ policies, ∃ row, parseQosRow row restoreNames = .ok (some policy))
    (hcount : policies.length ≤ maxQosPolicies)
    (hnames : (policies.map fun policy => policy.name.lower).Nodup)
    (hsize : (qosXml policies).byteLen ≤ maxQosBytes)
    (htexts : ∀ policy ∈ policies, ∀ field ∈ policyFields policy,
      field.2.byteLen ≤ maxPropertyBytes) :
    parseQosClixml reader (qosXml policies).bytes = .ok policies ↔
      ∀ policy ∈ policies, ∀ s ∈ policyTexts policy, Survives s := by
  have hnormal : ∀ policy ∈ policies, managedName policy.name = true ∧ NormalMatch policy := by
    intro policy hp
    obtain ⟨row, hrow⟩ := hrows policy hp
    exact normalMatch_of_readable (parseQosRow_some hrow).2.2
  constructor
  · intro hparse policy hp s hs
    obtain ⟨-, -, -, htrim, -⟩ := (parseQosClixml_eq_ok hr).mp hparse
    have hself : trimmedPolicy policy = policy := by
      have hmap : policies.map trimmedPolicy = policies.map id := by rw [List.map_id]; exact htrim.symm
      exact List.map_inj_left.mp hmap policy hp
    exact ⟨unescaped_of_parse hr hparse policy hp s hs,
      (trimmedPolicy_eq_self_iff (hnormal policy hp).2).mp hself s hs⟩
  · exact parseQosClixml_of_survives hr hnormal hcount hnames hsize htexts

/-- A provider row for a policy. -/
def policyRow (policy : QosPolicySpec) : Row where
  object := 0
  fields := (createdFields policy).put "__PATH" (.string "MSFT_NetQosPolicySettingData")

theorem parseQosRow_policyRow {policy : QosPolicySpec} {restoreNames : List Str}
    (h : Readable restoreNames policy) :
    parseQosRow (policyRow policy) restoreNames = .ok (some policy) :=
  parseQosRow_created h _ (fun _ _ hk => Fields.put_of_ne _ _ hk) (by
    rw [Row.string_of (v := "MSFT_NetQosPolicySettingData") rfl]
    decide)

def gamePolicy : QosPolicySpec := .app "NETWORK_LANTERN_QOS_APP_0" r"C:\Games\a b.exe" 46

theorem parseQosClixml_qosXml_iff_game :
    parseQosClixml scanXml (qosXml [gamePolicy]).bytes = .ok [gamePolicy] :=
  (parseQosClixml_qosXml_iff scanXml_lawful
    (fun policy hp => ⟨policyRow gamePolicy, by
      rw [List.mem_singleton.mp hp]
      exact parseQosRow_policyRow (by decide : Readable [] gamePolicy)⟩)
    (by decide) (by decide) (by decide +kernel) (by decide)).mpr (by decide +kernel)

def labPolicy : QosPolicySpec := .app "NETWORK_LANTERN_QOS_APP_0" r"C:\R&D\lab.exe" 46

/-- A path with an ampersand: the inventory returns the policy, and its artifact does not
read back. -/
theorem parseQosClixml_lab :
    (∃ row, parseQosRow row [] = .ok (some labPolicy)) ∧ scanXml.Lawful ∧
      (qosXml [labPolicy]).byteLen ≤ maxQosBytes ∧
      (∀ field ∈ policyFields labPolicy, field.2.byteLen ≤ maxPropertyBytes) ∧
      parseQosClixml scanXml (qosXml [labPolicy]).bytes ≠ .ok [labPolicy] := by
  refine ⟨⟨_, parseQosRow_policyRow (by decide)⟩, scanXml_lawful, by decide +kernel, by decide, fun h => ?_⟩
  have hu := unescaped_of_parse scanXml_lawful h labPolicy List.mem_cons_self
    r"C:\R&D\lab.exe".toList (by decide)
  exact absurd hu (by decide +kernel)

end NetworkLantern.Tuning
