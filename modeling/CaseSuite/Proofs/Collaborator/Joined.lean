import CaseSuite.Collaborator.Graphql
import CaseSuite.Proofs.Entries.Overlay
import CaseSuite.Proofs.Outcome
import CaseSuite.Proofs.Value.Normal
/-!
Requests joined: joining is associative and idempotent, the request that sets nothing makes no
difference, and joining what two maps are read as is reading the second map laid over the first.
What is sent then comes from the second request where it sets something, and from the first and the
defaults where not. Headers of its own keep a request from those of the defaults, though, and after
joining it does not matter which of the two requests they come from.
-/
set_option autoImplicit false

namespace CaseSuite

namespace GraphqlRequest

variable {r r' s s' : GraphqlRequest} {defaults : RequestDefaults}

/-- What a request sets for itself in a text field. -/
def own (r : GraphqlRequest) (name : String) : Option String :=
  if name = "query" then r.query
  else if name = "method" then r.method
  else if name = "url" then r.url
  else none

theorem eq_of_own (hown : ∀ name, r.own name = s.own name) (hheaders : r.headers = s.headers)
    (hdefaults : r.defaults = s.defaults) : r = s := by
  obtain ⟨query, headers, method, url, defaults⟩ := r
  obtain ⟨query', headers', method', url', defaults'⟩ := s
  obtain rfl : query = query' := hown "query"
  obtain rfl : method = method' := hown "method"
  obtain rfl : url = url' := hown "url"
  obtain rfl : headers = headers' := hheaders
  obtain rfl : defaults = defaults' := hdefaults
  rfl

theorem own_join (r s : GraphqlRequest) (name : String) :
    (r.join s).own name = (s.own name <|> r.own name) := by
  unfold own
  split_ifs <;> rfl

theorem own_blank (name : String) : (blank defaults).own name = none := by
  unfold own
  split_ifs <;> rfl

/-! ### Reading -/

/-- A field once an entry is laid over it: it has what the entry holds, or what it had before. -/
def Laid {α β : Type} (holds : α → Value) (field : α → β) (entry : Option Value)
    (before after : Option β) : Prop :=
  ∃ a : Option α, entry = a.map holds ∧ after = (a.map field <|> before)

section

variable {α β : Type} {holds : α → Value} {field : α → β} {before after : Option β}

theorem laid_none : Laid holds field none before after ↔ after = before := by
  constructor
  · rintro ⟨a, hentry, hafter⟩
    cases a with
    | none => exact hafter
    | some a => contradiction
  · intro h
    exact ⟨none, rfl, h⟩

theorem laid_some {v : Value} :
    Laid holds field (some v) before after ↔ ∃ a, v = holds a ∧ after = some (field a) := by
  constructor
  · rintro ⟨a, hentry, hafter⟩
    cases a with
    | none => contradiction
    | some a => exact ⟨a, Option.some_inj.mp hentry, hafter⟩
  · rintro ⟨a, hv, hafter⟩
    exact ⟨some a, congrArg some hv, hafter⟩

/-- With distinct names an entry is laid over a field before the others or together with them. -/
theorem laid_cons_iff {name key : String} {v : Value} {fields : Entries Value} {between : Option β}
    (hinj : ∀ a b, holds a = holds b → a = b) (hname : name ∉ fields.names)
    (h : Laid holds field (Entries.find? key [(name, v)]) before between) :
    Laid holds field (fields.find? key) between after ↔
      Laid holds field (Entries.find? key ((name, v) :: fields)) before after := by
  rw [Entries.find?_cons] at h ⊢
  by_cases hkey : name = key
  · subst hkey
    rw [if_pos rfl] at h ⊢
    obtain ⟨a, rfl, rfl⟩ := laid_some.mp h
    rw [Entries.find?_eq_none.mpr hname, laid_none, laid_some]
    constructor
    · rintro rfl
      exact ⟨a, rfl, rfl⟩
    · rintro ⟨b, hb, rfl⟩
      rw [hinj a b hb]
  · rw [if_neg hkey, Entries.find?_nil] at h
    rw [if_neg hkey, laid_none.mp h]

end

/-- The second request is the first with these entries laid over its fields. -/
structure Lays (r : GraphqlRequest) (fields : Entries Value) (r' : GraphqlRequest) : Prop where
  text : ∀ name, name ≠ "headers" →
    Laid Value.str id (fields.find? name) (r.own name) (r'.own name)
  headers : Laid Value.object (Entries.mapValues Value.text) (fields.find? "headers") r.headers
    r'.headers
  defaults : r'.defaults = r.defaults

theorem lays_nil : r.Lays [] r' ↔ r = r' := by
  constructor
  · rintro ⟨htext, hheaders, hdefaults⟩
    refine eq_of_own (fun name => ?_) (laid_none.mp hheaders).symm hdefaults.symm
    by_cases hname : name = "headers"
    · subst hname
      rfl
    · exact (laid_none.mp (htext name hname)).symm
  · rintro rfl
    exact ⟨fun _ _ => laid_none.mpr rfl, laid_none.mpr rfl, rfl⟩

theorem lays_cons_iff {name : String} {v : Value} {fields : Entries Value}
    (hname : name ∉ fields.names) (h : r.Lays [(name, v)] s) :
    s.Lays fields r' ↔ r.Lays ((name, v) :: fields) r' := by
  have htext (key : String) (hkey : key ≠ "headers") :
      Laid Value.str id (fields.find? key) (s.own key) (r'.own key) ↔
        Laid Value.str id (Entries.find? key ((name, v) :: fields)) (r.own key) (r'.own key) :=
    laid_cons_iff (fun _ _ => Value.str.inj) hname (h.text key hkey)
  have hheaders : Laid Value.object _ (fields.find? "headers") s.headers r'.headers ↔
      Laid Value.object _ (Entries.find? "headers" ((name, v) :: fields)) r.headers r'.headers :=
    laid_cons_iff (fun _ _ => Value.object.inj) hname h.headers
  constructor
  · intro hs
    exact ⟨fun key hkey => (htext key hkey).mp (hs.text key hkey), hheaders.mp hs.headers,
      hs.defaults.trans h.defaults⟩
  · intro hr
    exact ⟨fun key hkey => (htext key hkey).mpr (hr.text key hkey), hheaders.mpr hr.headers,
      hr.defaults.trans h.defaults.symm⟩

theorem lays_text {name text : String} (hname : name ≠ "headers")
    (hown : ∀ key, s.own key = if key = name then some text else r.own key)
    (hheaders : s.headers = r.headers) (hdefaults : s.defaults = r.defaults) :
    r.Lays [(name, .str text)] s := by
  refine ⟨fun key _ => ?_, ?_, hdefaults⟩
  · by_cases hkey : key = name
    · simp [Entries.find?_cons, hkey, laid_some, hown]
    · simp [Entries.find?_cons, Ne.symm hkey, laid_none, hown, hkey]
  · simp [Entries.find?_cons, hname, laid_none, hheaders]

theorem lays_headers (headers : Entries Value) :
    r.Lays [("headers", .object headers)]
      { r with headers := some (headers.mapValues Value.text) } := by
  refine ⟨fun key hkey => ?_, ?_, rfl⟩
  · simp [Entries.find?_cons, Ne.symm hkey, laid_none, own]
  · simp [Entries.find?_cons, laid_some]

theorem lays_query (text : String) :
    r.Lays [("query", .str text)] { r with query := some text } := by
  refine lays_text (by decide) (fun key => ?_) rfl rfl
  by_cases h : key = "query" <;> simp [own, h]

theorem lays_method (text : String) :
    r.Lays [("method", .str text)] { r with method := some text } := by
  refine lays_text (by decide) (fun key => ?_) rfl rfl
  by_cases h : key = "method" <;> simp [own, h]

theorem lays_url (text : String) : r.Lays [("url", .str text)] { r with url := some text } := by
  refine lays_text (by decide) (fun key => ?_) rfl rfl
  by_cases h : key = "url" <;> simp [own, h]

theorem textField_eq_ok {name text : String} {v : Value} :
    textField name v = .ok text ↔ v = .str text := by
  cases v <;> simp [textField]

theorem lays_of_readField {name : String} {v : Value} (h : r.readField name v = .ok s) :
    r.Lays [(name, v)] s := by
  unfold readField at h
  split at h
  case h_1 | h_2 | h_3 =>
    obtain ⟨text, htext, h⟩ := bind_eq_ok.mp h
    obtain rfl := textField_eq_ok.mp htext
    obtain rfl := pure_eq_ok.mp h
    first | exact lays_query text | exact lays_method text | exact lays_url text
  case h_4 =>
    cases v with
    | object headers =>
      obtain rfl := Except.ok.inj h
      exact lays_headers headers
    | null | bool _ | int _ | float _ | str _ | bytes _ | time _ | list _ => contradiction
  case h_5 => contradiction

theorem exists_readField {name : String} {v : Value} {fields : Entries Value}
    (h : r.Lays ((name, v) :: fields) r') : ∃ s, r.readField name v = .ok s := by
  by_cases hheaders : name = "headers"
  · subst hheaders
    have hlaid := h.headers
    rw [Entries.find?_cons, if_pos rfl, laid_some] at hlaid
    obtain ⟨headers, rfl, _⟩ := hlaid
    exact ⟨_, rfl⟩
  · have hlaid := h.text name hheaders
    rw [Entries.find?_cons, if_pos rfl, laid_some] at hlaid
    obtain ⟨text, rfl, hown⟩ := hlaid
    -- only known fields are ever set
    have hname : name = "query" ∨ name = "method" ∨ name = "url" := by
      unfold own at hown
      split_ifs at hown <;> simp_all
    obtain rfl | rfl | rfl := hname <;> exact ⟨_, rfl⟩

theorem readFields_eq_ok {fields : Entries Value} (hd : fields.Distinct) :
    r.readFields fields = .ok r' ↔ r.Lays fields r' := by
  induction fields generalizing r with
  | nil => rw [lays_nil, readFields, Except.ok.injEq]
  | cons field fields ih =>
    obtain ⟨name, v⟩ := field
    obtain ⟨hname, hd⟩ := Entries.distinct_cons.mp hd
    rw [readFields, bind_eq_ok]
    constructor
    · rintro ⟨s, hs, hrest⟩
      exact (lays_cons_iff hname (lays_of_readField hs)).mp ((ih hd).mp hrest)
    · intro h
      obtain ⟨s, hs⟩ := exists_readField h
      exact ⟨s, hs, (ih hd).mpr ((lays_cons_iff hname (lays_of_readField hs)).mpr h)⟩

theorem read_object_eq_ok {fields : Entries Value} (hd : fields.Distinct) :
    read (.object fields) defaults = .ok r ↔ (blank defaults).Lays fields r :=
  readFields_eq_ok hd

/-! ### Requests with the same defaults -/

/-- The requests that there are with these defaults: those that values describe, and their joins. -/
inductive Built (defaults : RequestDefaults) : GraphqlRequest → Prop
  | read {v : Value} {r : GraphqlRequest} : v.Distinct → read v defaults = .ok r → Built defaults r
  | join {r s : GraphqlRequest} : Built defaults r → Built defaults s → Built defaults (r.join s)

theorem Built.defaults_eq (h : Built defaults r) : r.defaults = defaults := by
  induction h with
  | @read v r hd hread =>
    cases v with
    | object fields => exact ((read_object_eq_ok (entriesDistinct_names hd)).mp hread).defaults
    | null | bool _ | int _ | float _ | str _ | bytes _ | time _ | list _ => contradiction
  | join _ _ ih _ => exact ih

theorem distinct_joinHeaders {ours theirs : Option (Entries String)} (h : (ours.getD []).Distinct) :
    (theirs.getD []).Distinct → ((joinHeaders ours theirs).getD []).Distinct := by
  cases theirs with
  | none => exact fun _ => h
  | some theirs => exact fun _ => h.insertAll theirs

theorem Built.distinct (h : Built defaults r) : (r.headers.getD []).Distinct := by
  induction h with
  | @read v r hd hread =>
    cases v with
    | object fields =>
      have hlays := (read_object_eq_ok (entriesDistinct_names hd)).mp hread
      obtain ⟨headers, hfind, hheaders⟩ := hlays.headers
      rw [hheaders]
      cases headers with
      | none => exact List.nodup_nil
      | some headers =>
        have hown : (Value.object headers).Distinct := entriesDistinct.of_find? hd hfind
        exact (entriesDistinct_names hown).mapValues Value.text
    | null | bool _ | int _ | float _ | str _ | bytes _ | time _ | list _ => contradiction
  | join _ _ ih ih' => exact distinct_joinHeaders ih ih'

section

variable {first second third : Option (Entries String)}

theorem joinHeaders_assoc (hfirst : (first.getD []).Distinct) (hsecond : (second.getD []).Distinct)
    (hthird : (third.getD []).Distinct) :
    joinHeaders (joinHeaders first second) third =
      joinHeaders first (joinHeaders second third) := by
  cases third with
  | none => rfl
  | some third =>
    cases second with
    | none =>
      have hnone : Entries.insertAll [] third = third := Entries.insertAll_nil_eq_iff.mpr hthird
      simp [joinHeaders, hnone]
    | some second => exact congrArg some (Entries.insertAll_assoc hfirst hsecond hthird)

theorem joinHeaders_self (h : (first.getD []).Distinct) : joinHeaders first first = first := by
  cases first with
  | none => rfl
  | some first => exact congrArg some (Entries.insertAll_self h)

theorem joinHeaders_none_left (h : (first.getD []).Distinct) : joinHeaders none first = first := by
  cases first with
  | none => rfl
  | some first => exact congrArg some (Entries.insertAll_nil_eq_iff.mpr h)

end

/-! ### Maps laid over each other -/

/-- Both maps of headers in one, with the second's values at the first's places. -/
def unite : Option Value → Value → Value
  | some (.object headers), .object own => .object (Entries.insertAll headers own)
  | _, v => v

/-- The fields of the second request over those of the first; their headers are united. -/
def overlay (below above : Entries Value) : Entries Value :=
  below.insertAll (above.map fun field =>
    (field.1, if field.1 = "headers" then unite (below.find? field.1) field.2 else field.2))

theorem find?_overlay (below : Entries Value) {above : Entries Value} (hd : above.Distinct)
    (name : String) : (overlay below above).find? name =
      ((above.find? name).map (fun v =>
        if name = "headers" then unite (below.find? name) v else v) <|> below.find? name) := by
  let change (name : String) (v : Value) :=
    if name = "headers" then unite (below.find? name) v else v
  exact (Entries.find?_insertAll below (hd.map change) name).trans
    (congrArg (· <|> below.find? name) (Entries.find?_map change above name))

theorem Lays.overlay {below above : Entries Value} (hd : above.Distinct)
    (hd' : ∀ headers, above.find? "headers" = some (.object headers) → Entries.Distinct headers)
    (h : (blank defaults).Lays below r) (h' : (blank defaults).Lays above s) :
    (blank defaults).Lays (overlay below above) (r.join s) := by
  refine ⟨fun name hname => ?_, ?_, h.defaults⟩
  · obtain ⟨text, hfind, hown⟩ := h.text name hname
    obtain ⟨text', hfind', hown'⟩ := h'.text name hname
    refine ⟨text' <|> text, ?_, ?_⟩
    · rw [find?_overlay below hd, hfind, hfind']
      cases text' <;> simp [hname]
    · rw [own_join, hown, hown', own_blank]
      cases text' <;> simp
  · obtain ⟨headers, hfind, hset⟩ := h.headers
    obtain ⟨headers', hfind', hset'⟩ := h'.headers
    have hjoin : (r.join s).headers = joinHeaders r.headers s.headers := rfl
    rw [hjoin, hset, hset', find?_overlay below hd, hfind, hfind']
    cases headers' with
    | none => exact ⟨headers, by simp, by cases headers <;> rfl⟩
    | some headers' =>
      cases headers with
      | none =>
        have hown := (hd' headers' hfind').mapValues Value.text
        exact ⟨some headers', by simp [unite], joinHeaders_none_left hown⟩
      | some headers =>
        exact ⟨some (Entries.insertAll headers headers'), by simp [unite],
          congrArg some (Entries.mapValues_insertAll Value.text headers headers').symm⟩

theorem join_assoc {a b c : GraphqlRequest} (ha : Built defaults a) (hb : Built defaults b)
    (hc : Built defaults c) : (a.join b).join c = a.join (b.join c) := by
  refine eq_of_own (fun name => ?_) (joinHeaders_assoc ha.distinct hb.distinct hc.distinct) rfl
  simp only [own_join]
  cases c.own name <;> rfl

theorem join_self (h : Built defaults r) : r.join r = r := by
  refine eq_of_own (fun name => ?_) (joinHeaders_self h.distinct) rfl
  rw [own_join]
  cases r.own name <;> rfl

theorem blank_join (h : Built defaults r) : (blank defaults).join r = r := by
  refine eq_of_own (fun name => ?_) (joinHeaders_none_left h.distinct) h.defaults_eq.symm
  rw [own_join, own_blank]
  cases r.own name <;> rfl

theorem join_blank (r : GraphqlRequest) : r.join (blank defaults) = r := by
  refine eq_of_own (fun name => ?_) rfl rfl
  rw [own_join, own_blank]
  rfl

theorem read_overlay {below above : Entries Value} (hd : (Value.object below).Distinct)
    (hd' : (Value.object above).Distinct) (h : read (.object below) defaults = .ok r)
    (h' : read (.object above) defaults = .ok s) :
    read (.object (overlay below above)) defaults = .ok (r.join s) := by
  have hbelow := entriesDistinct_names hd
  have habove := entriesDistinct_names hd'
  have hheaders (headers : Entries Value) (hfind : above.find? "headers" = some (.object headers)) :
      headers.Distinct := entriesDistinct_names (entriesDistinct.of_find? hd' hfind)
  have hlays := (read_object_eq_ok hbelow).mp h
  have hlays' := (read_object_eq_ok habove).mp h'
  exact (read_object_eq_ok (hbelow.insertAll _)).mpr (hlays.overlay habove hheaders hlays')

/-- Joining requests with the same defaults never fails. It is associative and idempotent, the
request of the empty map makes no difference, and it is what reading makes of laying one map over
another. Requests are values, so that those joined stay what they are. -/
theorem join_laws {a b c : GraphqlRequest} (ha : Built defaults a) (hb : Built defaults b)
    (hc : Built defaults c) :
    Joinable.join a b = .ok (a.join b) ∧
      (a.join b).join c = a.join (b.join c) ∧
      a.join a = a ∧
      (∃ e, read (.object []) defaults = .ok e ∧ e.join a = a ∧ a.join e = a) ∧
      ∀ below above : Entries Value, (Value.object below).Distinct → (Value.object above).Distinct →
        read (.object below) defaults = .ok a → read (.object above) defaults = .ok b →
          read (.object (overlay below above)) defaults = .ok (a.join b) :=
  ⟨rfl, join_assoc ha hb hc, join_self ha, ⟨_, rfl, blank_join ha, join_blank a⟩,
    fun _ _ => read_overlay⟩

def sampleDefaults : RequestDefaults := ⟨some "http://localhost", none, [("X-Default", .int 1)]⟩

def sampleBase : Entries Value :=
  [("query", .str "base"), ("headers", .object [("Authorization", .str ""), ("X-Trace", .str "a")])]

def sampleChange : Entries Value :=
  [("headers", .object [("X-New", .int 2), ("X-Trace", .str "b")]), ("query", .str "change")]

theorem distinct_samples :
    (Value.object sampleBase).Distinct ∧ (Value.object sampleChange).Distinct := by
  simp [sampleBase, sampleChange, Value.Distinct, entriesDistinct]

theorem join_laws_samples : ∃ a b, read (.object sampleBase) sampleDefaults = .ok a ∧
    read (.object sampleChange) sampleDefaults = .ok b ∧ (a.join b).join a = a.join (b.join a) ∧
    overlay sampleBase sampleChange = [("query", .str "change"), ("headers", .object
      [("Authorization", .str ""), ("X-Trace", .str "b"), ("X-New", .int 2)])] ∧
    read (.object (overlay sampleBase sampleChange)) sampleDefaults = .ok (a.join b) := by
  obtain ⟨hd, hd'⟩ := distinct_samples
  have hread : ∃ a b, read (.object sampleBase) sampleDefaults = .ok a ∧
      read (.object sampleChange) sampleDefaults = .ok b := ⟨_, _, rfl, rfl⟩
  obtain ⟨a, b, h, h'⟩ := hread
  obtain ⟨_, hassoc, _, _, hoverlay⟩ := join_laws (.read hd h) (.read hd' h') (.read hd h)
  exact ⟨a, b, h, h', hassoc, rfl, hoverlay _ _ hd hd' h h'⟩

/-! ### What is sent -/

/-- What a request sets for itself as a header. -/
def header? (r : GraphqlRequest) (name : String) : Option String :=
  r.headers.bind (Entries.find? name)

theorem payload_join (r s : GraphqlRequest) :
    (r.join s).payload = .object [("query", .str (s.query.getD (r.query.getD "")))] := by
  simp only [payload, join]
  cases s.query <;> rfl

theorem effectiveMethod_join (r s : GraphqlRequest) :
    (r.join s).effectiveMethod = s.method.getD r.effectiveMethod := by
  simp only [effectiveMethod, join]
  cases s.method <;> rfl

theorem effectiveUrl_join (r s : GraphqlRequest) :
    (r.join s).effectiveUrl = (s.url <|> r.effectiveUrl) := by
  simp only [effectiveUrl, join]
  cases s.url <;> rfl

theorem find?_effectiveHeaders (h : r.headers ≠ none) (name : String) :
    r.effectiveHeaders.find? name = r.header? name := by
  obtain ⟨headers, hheaders⟩ := Option.ne_none_iff_exists'.mp h
  rw [effectiveHeaders, header?, hheaders]
  rfl

/-- Only requests without headers of their own make it possible that defaults are sent. -/
theorem find?_effectiveHeaders_join (hd : (s.headers.getD []).Distinct) (name : String) :
    (r.join s).effectiveHeaders.find? name =
      if s.headers = none then r.effectiveHeaders.find? name
      else (s.header? name <|> r.header? name) := by
  have hjoin : (r.join s).headers = joinHeaders r.headers s.headers := rfl
  cases h : s.headers with
  | none => rw [if_pos rfl, effectiveHeaders, hjoin, h, joinHeaders, effectiveHeaders, join]
  | some headers =>
    rw [h, Option.getD_some] at hd
    rw [if_neg (Option.some_ne_none headers), effectiveHeaders, hjoin, h, joinHeaders,
      Option.getD_some, Entries.find?_insertAll _ hd, header?, header?, h]
    cases r.headers <;> rfl

/-- After joining, what the second request sets is sent, and otherwise what the first one would have
sent; but where only the second has headers of its own, those of the defaults are not sent. -/
theorem join_sends (a : GraphqlRequest) {b : GraphqlRequest} (hb : Built a.defaults b) :
    (a.join b).payload = .object [("query", .str (b.query.getD (a.query.getD "")))] ∧
      (a.join b).effectiveMethod = b.method.getD a.effectiveMethod ∧
      (a.join b).effectiveUrl = (b.url <|> a.effectiveUrl) ∧
      ∀ name,
        (∀ text, b.header? name = some text →
          (a.join b).effectiveHeaders.find? name = some text) ∧
        (b.header? name = none → (a.headers = none → b.headers = none) →
          (a.join b).effectiveHeaders.find? name = a.effectiveHeaders.find? name) ∧
        (b.header? name = none → a.headers = none → b.headers ≠ none →
          (a.join b).effectiveHeaders.find? name = none) := by
  refine ⟨payload_join a b, effectiveMethod_join a b, effectiveUrl_join a b, fun name => ?_⟩
  rw [find?_effectiveHeaders_join hb.distinct]
  refine ⟨fun text htext => ?_, fun hnone hown => ?_, fun hnone ha hown => ?_⟩
  · have hheaders : b.headers ≠ none := fun h => by
      rw [header?, h] at htext
      contradiction
    rw [if_neg hheaders, htext]
    rfl
  · split
    case isTrue _ => rfl
    case isFalse hheaders =>
      rw [hnone, find?_effectiveHeaders fun h => hheaders (hown h)]
      rfl
  · rw [if_neg hown, hnone, header?, ha]
    rfl

theorem join_sends_samples : ∃ a b, read (.object sampleBase) sampleDefaults = .ok a ∧
    read (.object sampleChange) sampleDefaults = .ok b ∧
    (a.join b).effectiveUrl = some "http://localhost" ∧
    (a.join b).effectiveHeaders.find? "X-Trace" = some "b" ∧
    (a.join b).effectiveHeaders.find? "Authorization" = some "" := by
  have hread : ∃ a b, read (.object sampleBase) sampleDefaults = .ok a ∧
      read (.object sampleChange) sampleDefaults = .ok b ∧ a.defaults = sampleDefaults ∧
      a.effectiveUrl = some "http://localhost" ∧ b.url = none ∧ a.headers ≠ none ∧
      a.effectiveHeaders.find? "Authorization" = some "" ∧
      b.header? "Authorization" = none ∧ b.header? "X-Trace" = some "b" :=
    ⟨_, _, rfl, rfl, rfl, rfl, rfl, Option.some_ne_none _, rfl, rfl, rfl⟩
  obtain ⟨a, b, h, h', hdefaults, hurl, hnoUrl, hheaders, hsame, hnone, htrace⟩ := hread
  have hb : Built a.defaults b := hdefaults ▸ .read distinct_samples.2 h'
  obtain ⟨_, _, hsent, hheader⟩ := join_sends a hb
  refine ⟨a, b, h, h', ?_, (hheader "X-Trace").1 "b" htrace, ?_⟩
  · rw [hsent, hnoUrl, hurl]
    rfl
  · rw [(hheader "Authorization").2.1 hnone fun ha => absurd ha hheaders, hsame]

/-- A header of the defaults is sent by the first request and not after joining one that only sets
another header. -/
theorem exists_default_header_lost : ∃ a b,
    read (.object [("query", .str "q")]) sampleDefaults = .ok a ∧
    read (.object [("headers", .object [("X-Trace", .str "b")])]) sampleDefaults = .ok b ∧
    b.header? "X-Default" = none ∧ a.effectiveHeaders.find? "X-Default" = some "1" ∧
    (a.join b).effectiveHeaders.find? "X-Default" = none :=
  ⟨_, _, rfl, rfl, rfl, rfl, rfl⟩

end GraphqlRequest

end CaseSuite
