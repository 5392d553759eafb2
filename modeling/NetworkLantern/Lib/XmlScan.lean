import NetworkLantern.Lib.Xml

/-!
# A reader of plain documents

`scanXml` reads documents whose tags have at most one attribute, one character
after the other.  It delivers the documented events (`scanXml_lawful`).
-/

namespace NetworkLantern

open XmlToken

namespace XmlScan

/-- Where the reader is: in character data, between `<` and `>`, or between `&` and
`;`, each with what it has read so far. -/
inductive Mode
  | content (data : Str)
  | markup (inside : Str)
  | reference (name : Str)

/-- The event of the character data read so far. -/
def flush (data : Str) : List XmlEvent :=
  if (trimSpace data).isEmpty then [] else [.text (some (trimSpace data))]

/-- The event of what stands between `<` and `>`. -/
def markupEvent : Str → XmlEvent
  | '/' :: tag => .close tag
  | inside =>
    match inside.dropWhile (· ≠ ' ') with
    | [] => .start inside []
    | _ :: rest =>
      .start (inside.takeWhile (· ≠ ' '))
        [.pair (rest.takeWhile (· ≠ '=')) (some ((rest.dropWhile (· ≠ '=')).drop 2).dropLast)]

def scan : Mode → Str → List XmlEvent
  | .content data, [] => flush data
  | .content data, c :: cs =>
    if c = '<' then flush data ++ scan (.markup []) cs
    else if c = '&' then flush data ++ scan (.reference []) cs
    else scan (.content (data ++ [c])) cs
  | .markup _, [] => [.error]
  | .markup inside, c :: cs =>
    if c = '>' then markupEvent inside :: scan (.content []) cs
    else scan (.markup (inside ++ [c])) cs
  | .reference _, [] => [.error]
  | .reference name, c :: cs =>
    if c = ';' then .generalRef name :: scan (.content []) cs
    else scan (.reference (name ++ [c])) cs

end XmlScan

def scanXml : XmlReader := XmlScan.scan (.content [])

namespace XmlScan

/-! ## One token -/

theorem scan_text (data s rest : Str) (h : ∀ c ∈ s, c ≠ '<' ∧ c ≠ '&') :
    scan (.content data) (s ++ rest) = scan (.content (data ++ s)) rest := by
  induction s generalizing data with
  | nil => simp
  | cons c s ih =>
    obtain ⟨h1, h2⟩ := h c List.mem_cons_self
    rw [List.cons_append, scan, if_neg h1, if_neg h2,
      ih _ fun d hd => h d (List.mem_cons_of_mem c hd), List.append_assoc]
    rfl

theorem scan_markup (inside s rest : Str) (h : '>' ∉ s) :
    scan (.markup inside) (s ++ '>' :: rest) = markupEvent (inside ++ s) :: scan (.content []) rest := by
  induction s generalizing inside with
  | nil => simp [scan]
  | cons c s ih =>
    rw [List.mem_cons, not_or] at h
    rw [List.cons_append, scan, if_neg fun hc => h.1 hc.symm, ih _ h.2, List.append_assoc]
    rfl

theorem scan_reference (name s rest : Str) (h : ';' ∉ s) :
    scan (.reference name) (s ++ ';' :: rest) = .generalRef (name ++ s) :: scan (.content []) rest := by
  induction s generalizing name with
  | nil => simp [scan]
  | cons c s ih =>
    rw [List.mem_cons, not_or] at h
    rw [List.cons_append, scan, if_neg fun hc => h.1 hc.symm, ih _ h.2, List.append_assoc]
    rfl

theorem not_mem_of_isPlain {s : Str} (h : isPlain s = true) {c : Char} (hc : c.isAlphanum = false) :
    c ∉ s := by
  intro hm
  simp only [isPlain, Bool.and_eq_true, List.all_eq_true] at h
  have := h.2 c hm
  rw [hc] at this
  cases this

theorem takeWhile_append_sep {s : Str} {c : Char} (rest : Str) (h : c ∉ s) :
    (s ++ c :: rest).takeWhile (· ≠ c) = s := by
  rw [List.takeWhile_append_of_pos (by intro d hd; simpa using ne_of_mem_of_not_mem hd h)]
  simp

theorem dropWhile_append_sep {s : Str} {c : Char} (rest : Str) (h : c ∉ s) :
    (s ++ c :: rest).dropWhile (· ≠ c) = c :: rest := by
  rw [List.dropWhile_append_of_pos (by intro d hd; simpa using ne_of_mem_of_not_mem hd h)]
  simp

theorem markupEvent_tag {tag : Str} (h : isPlain tag = true) : markupEvent tag = .start tag [] := by
  have hslash := not_mem_of_isPlain h (c := '/') rfl
  have hspace := not_mem_of_isPlain h (c := ' ') rfl
  unfold markupEvent
  split
  · exact absurd List.mem_cons_self hslash
  · rw [List.dropWhile_eq_nil_iff.mpr (by intro d hd; simpa using ne_of_mem_of_not_mem hd hspace)]

theorem markupEvent_attr {tag key value : Str} (ht : isPlain tag = true) (hk : isPlain key = true) :
    markupEvent (tag ++ ' ' :: key ++ '=' :: '"' :: value ++ ['"']) =
      .start tag [.pair key (some value)] := by
  have hslash := not_mem_of_isPlain ht (c := '/') rfl
  have hspace := not_mem_of_isPlain ht (c := ' ') rfl
  have heq := not_mem_of_isPlain hk (c := '=') rfl
  have hshape : tag ++ ' ' :: key ++ '=' :: '"' :: value ++ ['"'] =
      tag ++ ' ' :: (key ++ '=' :: ('"' :: value ++ ['"'])) := by simp
  rw [hshape]
  unfold markupEvent
  split
  · next rest he =>
    cases tag with
    | nil => cases ht
    | cons c tag =>
      rw [List.cons_append, List.cons.injEq] at he
      exact absurd (he.1 ▸ List.mem_cons_self) hslash
  · rw [dropWhile_append_sep _ hspace, takeWhile_append_sep _ hspace]
    simp only [takeWhile_append_sep _ heq, dropWhile_append_sep _ heq]
    simp

theorem scan_token (token : XmlToken) (rest : Str) (h : token.WellFormed) (ht : token.isText = false)
    (data : Str) :
    scan (.content data) (token.render ++ rest) =
      flush data ++ token.events ++ scan (.content []) rest := by
  have markup : ∀ inside event, '>' ∉ inside → markupEvent inside = event →
      scan (.content data) ('<' :: (inside ++ '>' :: rest)) =
        flush data ++ event :: scan (.content []) rest := by
    intro inside event hgt he
    rw [scan, if_pos rfl, scan_markup [] inside rest hgt, List.nil_append, he]
  cases token with
  | text value => cases ht
  | ref name =>
    have hr : (ref name).render ++ rest = '&' :: (name ++ ';' :: rest) := by simp [render]
    rw [hr, scan, if_neg (by decide), if_pos rfl,
      scan_reference [] name rest (not_mem_of_isPlain h rfl)]
    simp [XmlToken.events]
  | close tag =>
    have hr : (close tag).render ++ rest = '<' :: ('/' :: tag ++ '>' :: rest) := by simp [render]
    have hgt : '>' ∉ '/' :: tag := by
      rw [List.mem_cons, not_or]
      exact ⟨by decide, not_mem_of_isPlain h rfl⟩
    rw [hr, markup _ (.close tag) hgt rfl]
    simp [XmlToken.events]
  | start tag attr =>
    cases attr with
    | none =>
      have hr : (start tag none).render ++ rest = '<' :: (tag ++ '>' :: rest) := by simp [render]
      rw [hr, markup _ _ (not_mem_of_isPlain h rfl) (markupEvent_tag h)]
      simp [XmlToken.events]
    | some attr =>
      obtain ⟨key, value⟩ := attr
      obtain ⟨h1, h2, h3⟩ := h
      have hr : (start tag (some (key, value))).render ++ rest =
          '<' :: (tag ++ ' ' :: key ++ '=' :: '"' :: value ++ ['"'] ++ '>' :: rest) := by
        simp [render]
      have hgt : '>' ∉ tag ++ ' ' :: key ++ '=' :: '"' :: value ++ ['"'] := by
        simp [not_mem_of_isPlain h1 (c := '>') rfl, not_mem_of_isPlain h2 (c := '>') rfl,
          not_mem_of_isPlain h3 (c := '>') rfl]
      rw [hr, markup _ _ hgt (markupEvent_attr h1 h2)]
      simp [XmlToken.events]

/-! ## Whole documents -/

theorem flush_trimmed {data value : Str} (h : .text (some value) ∈ flush data) :
    trimSpace value = value := by
  unfold flush at h
  split at h
  · cases h
  · cases List.mem_singleton.mp h
    exact Str.trimMatches_idem _ _

theorem markupEvent_ne_text (inside : Str) (value : Option Str) :
    markupEvent inside ≠ .text value := by
  unfold markupEvent
  split
  · exact fun h => (by cases h)
  · split <;> exact fun h => (by cases h)

/-- Every text that is delivered is trimmed. -/
theorem scan_trimmed (mode : Mode) (s : Str) {value : Str} (h : .text (some value) ∈ scan mode s) :
    trimSpace value = value := by
  fun_induction scan mode s with
  | case1 data => exact flush_trimmed h
  | case2 data cs ih => exact (List.mem_append.mp h).elim flush_trimmed ih
  | case3 data cs hc ih => exact (List.mem_append.mp h).elim flush_trimmed ih
  | case4 data c cs hc hc' ih => exact ih h
  | case5 inside => simp at h
  | case6 inside cs ih =>
    exact (List.mem_cons.mp h).elim (fun he => absurd he.symm (markupEvent_ne_text _ _)) ih
  | case7 inside c cs hc ih => exact ih h
  | case8 name => simp at h
  | case9 name cs ih => exact (List.mem_cons.mp h).elim (fun he => by cases he) ih
  | case10 name c cs hc ih => exact ih h

theorem scan_renderAll (doc : List XmlToken) (h : ∀ t ∈ doc, t.WellFormed) (hs : Separated doc) :
    scan (.content []) (renderAll doc) = doc.flatMap XmlToken.events := by
  -- the text in front of the rest of a document that goes on with markup
  have front : ∀ (doc : List XmlToken) (data : Str), (∀ t ∈ doc, t.WellFormed) →
      (∀ t ∈ doc.head?, t.isText = false) →
      scan (.content data) (renderAll doc) = flush data ++ scan (.content []) (renderAll doc) := by
    intro doc data hw hh
    cases doc with
    | nil => simp [renderAll, scan, flush, trimSpace, Str.trimMatches]
    | cons t doc =>
      have ht := hh t rfl
      have hwt := hw t List.mem_cons_self
      have hr : renderAll (t :: doc) = t.render ++ renderAll doc := rfl
      rw [hr, scan_token t _ hwt ht, scan_token t _ hwt ht]
      simp [flush, trimSpace, Str.trimMatches]
  induction doc with
  | nil => simp [renderAll, scan, flush, trimSpace, Str.trimMatches]
  | cons t doc ih =>
    have hwt := h t List.mem_cons_self
    have hw := fun t' ht' => h t' (List.mem_cons_of_mem t ht')
    have ih := ih hw (List.isChain_of_isChain_cons hs)
    have hr : renderAll (t :: doc) = t.render ++ renderAll doc := rfl
    rw [hr, List.flatMap_cons]
    by_cases ht : t.isText = false
    · rw [scan_token t _ hwt ht, ih]
      simp [flush, trimSpace, Str.trimMatches]
    · cases t with
      | text value =>
        have hvalue : ∀ c ∈ value, c ≠ '<' ∧ c ≠ '&' := by
          simp only [WellFormed, isCharData, Bool.and_eq_true, List.all_eq_true] at hwt
          intro c hc
          simpa using hwt.2 c hc
        have hhead : ∀ t' ∈ doc.head?, t'.isText = false := by
          intro t' ht'
          cases doc with
          | nil => cases ht'
          | cons d doc =>
            cases ht'
            have hstep := (List.isChain_cons_cons.mp hs).1
            simpa [XmlToken.isText] using hstep
        show scan (.content []) (value ++ renderAll doc) = _
        rw [scan_text [] value _ hvalue, List.nil_append, front doc value hw hhead, ih]
        rfl
      | start tag attr => exact absurd rfl ht
      | ref name => exact absurd rfl ht
      | close tag => exact absurd rfl ht

end XmlScan

theorem scanXml_lawful : scanXml.Lawful where
  documented doc hw hs _ := XmlScan.scan_renderAll doc hw hs
  trimmed _ _ h := XmlScan.scan_trimmed _ _ h

end NetworkLantern
