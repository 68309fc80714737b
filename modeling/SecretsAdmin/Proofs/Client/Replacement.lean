import Mathlib.Data.List.Forall2
import SecretsAdmin.Proofs.Client.Jar

namespace SecretsAdmin.Client

/-!
# Cookies that replace others

A session knows every name that was kept, in the order in which the names first came, and with the
value that came last. Texts without a cookie make no difference to it.
-/

/-! ## What is kept -/

namespace Cookie

/-- Whether a text is divided by its first equals sign, and before its first semicolon. -/
structure Divides (given : String) (name value : List Char) : Prop where
  pair : given.toList.takeWhile (· != ';') = name ++ '=' :: value
  first : '=' ∉ name

/-- Whether a text has a cookie: what is before the equals sign is not blank. -/
def IsKept (given : String) : Prop :=
  ∃ name value, Divides given name value ∧ ∃ character ∈ name, Text.isBlank character = false

/-- Whether a cookie has the name and the value of a text. -/
def IsOf (cookie : Cookie) (given : String) : Prop :=
  ∃ name value,
    Divides given name value ∧
      Text.Trims name cookie.name.toList ∧ Text.Trims value cookie.value.toList

/-- Cutting at the semicolon and then at the equals sign is dividing. -/
theorem cutAt?_eq_some_iff_divides
    {given : String}
    {name value : List Char} :
    Text.cutAt? '=' (Text.cutOrWhole ';' given.toList).1 = some (name, value) ↔
      Divides given name value := by
  rw [Text.cutAt?_eq_some_iff, Text.cutOrWhole_fst]
  exact ⟨fun divided => ⟨divided.1, divided.2⟩, fun divided => ⟨divided.pair, divided.first⟩⟩

/-- A text is divided at one place only. -/
theorem Divides.unique
    {given : String}
    {name other value rest : List Char}
    (divided : Divides given name value)
    (alsoDivided : Divides given other rest) :
    name = other ∧ value = rest := by
  have same := cutAt?_eq_some_iff_divides.mpr divided
  rw [cutAt?_eq_some_iff_divides.mpr alsoDivided] at same
  cases same
  exact ⟨rfl, rfl⟩

/-- A text that is divided has a cookie, unless its name is blank. -/
theorem ofGiven?_of_divides
    {given : String}
    {name value : List Char}
    (divided : Divides given name value) :
    ofGiven? given =
      if Text.trimBlanks name = [] then
        none
      else
        some ⟨String.ofList (Text.trimBlanks name), String.ofList (Text.trimBlanks value)⟩ := by
  simp [ofGiven?, cutAt?_eq_some_iff_divides.mpr divided, List.isEmpty_iff]

/-- The cookie that is made of a text is its cookie, if it has one. -/
theorem ofGiven?_eq_some_iff
    {given : String}
    {cookie : Cookie} :
    ofGiven? given = some cookie ↔ IsKept given ∧ cookie.IsOf given := by
  constructor
  · intro isMade
    obtain ⟨⟨name, value⟩, isCut, -⟩ := Option.bind_eq_some_iff.mp isMade
    have divided := cutAt?_eq_some_iff_divides.mp isCut
    rw [ofGiven?_of_divides divided] at isMade
    split at isMade
    next => cases isMade
    next notBlank =>
      cases isMade
      refine ⟨⟨name, value, divided, Text.trimBlanks_ne_nil_iff.mp notBlank⟩,
        name, value, divided, ?_, ?_⟩
      · exact String.toList_ofList ▸ Text.trims_trimBlanks name
      · exact String.toList_ofList ▸ Text.trims_trimBlanks value
  · rintro ⟨⟨name, value, divided, notBlank⟩, other, rest, alsoDivided, isName, isValue⟩
    obtain ⟨rfl, rfl⟩ := divided.unique alsoDivided
    rw [ofGiven?_of_divides divided, if_neg (Text.trimBlanks_ne_nil_iff.mpr notBlank),
      Text.trims_iff.mp isName, Text.trims_iff.mp isValue, String.ofList_toList,
      String.ofList_toList]

/-- Whether a text has a cookie is decided by making it. -/
theorem isKept_iff {given : String} :
    IsKept given ↔ (ofGiven? given).isSome = true := by
  constructor
  · rintro ⟨name, value, divided, notBlank⟩
    rw [ofGiven?_of_divides divided, if_neg (Text.trimBlanks_ne_nil_iff.mpr notBlank)]
    rfl
  · intro isMade
    obtain ⟨cookie, isMade⟩ := Option.isSome_iff_exists.mp isMade
    exact (ofGiven?_eq_some_iff.mp isMade).1

instance : DecidablePred IsKept := fun _ => decidable_of_iff _ isKept_iff.symm

/-- The cookies that are made of some texts are those of the texts that have one. -/
theorem areOf_filterMap_ofGiven? (given : List String) :
    List.Forall₂ IsOf (given.filterMap ofGiven?) (given.filter IsKept) := by
  induction given with
  | nil => exact .nil
  | cons first rest inductionHypothesis =>
      cases isMade : ofGiven? first with
      | none =>
          have notKept : ¬IsKept first := by simp [isKept_iff, isMade]
          rw [List.filterMap_cons_none isMade, List.filter_cons_of_neg (by simpa using notKept)]
          exact inductionHypothesis
      | some cookie =>
          obtain ⟨kept, isOf⟩ := ofGiven?_eq_some_iff.mp isMade
          rw [List.filterMap_cons_some isMade, List.filter_cons_of_pos (by simpa using kept)]
          exact .cons isOf inductionHypothesis

/-- Texts without a cookie may be left out. -/
theorem filterMap_ofGiven?_filter (given : List String) :
    (given.filter IsKept).filterMap ofGiven? = given.filterMap ofGiven? := by
  rw [List.filterMap_filter]
  refine List.filterMap_congr fun text _ => ?_
  cases isMade : ofGiven? text <;> simp [isKept_iff, isMade]

end Cookie

/-! ## What a session remembers -/

namespace Session

/-- Whether a session has the last cookie of every name, in the order of their first ones. -/
structure Remembers (session : Session) (kept : List Cookie) : Prop where
  distinct : (session.cookies.map Cookie.name).Nodup
  mem_iff :
    ∀ name, name ∈ session.cookies.map Cookie.name ↔ name ∈ kept.map Cookie.name
  order :
    (session.cookies.map Cookie.name).Pairwise fun name other =>
      (kept.map Cookie.name).idxOf name < (kept.map Cookie.name).idxOf other
  last :
    ∀ cookie ∈ session.cookies,
      (kept.filter fun other => other.name = cookie.name).getLast? = some cookie

/-- What was kept tells all of a session that remembers it. -/
theorem Remembers.unique
    {session other : Session}
    {kept : List Cookie}
    (remembers : session.Remembers kept)
    (alsoRemembers : other.Remembers kept) :
    session = other := by
  have ofNames
      {session : Session}
      (remembers : session.Remembers kept) :
      (session.cookies.map Cookie.name).filterMap
          (fun name => (kept.filter fun cookie => cookie.name = name).getLast?) =
        session.cookies := by
    rw [List.filterMap_map]
    exact (List.filterMap_congr remembers.last).trans List.filterMap_some
  have sameMembers : (session.cookies.map Cookie.name).Perm (other.cookies.map Cookie.name) :=
    (List.perm_ext_iff_of_nodup remembers.distinct alsoRemembers.distinct).mpr fun name =>
      (remembers.mem_iff name).trans (alsoRemembers.mem_iff name).symm
  have sameNames : session.cookies.map Cookie.name = other.cookies.map Cookie.name :=
    sameMembers.eq_of_pairwise (fun _ _ _ _ before after => absurd before (Nat.lt_asymm after))
      remembers.order alsoRemembers.order
  have sameCookies : session.cookies = other.cookies := by
    rw [← ofNames remembers, sameNames, ofNames alsoRemembers]
  cases session
  cases other
  exact congrArg Session.mk sameCookies

/-- A cookie that is placed is there. -/
theorem mem_place_self
    (cookie : Cookie)
    (cookies : List Cookie) :
    cookie ∈ place cookie cookies := by
  induction cookies with
  | nil => exact List.mem_singleton_self _
  | cons first rest inductionHypothesis =>
      unfold place
      split
      next => exact List.mem_cons_self
      next => exact List.mem_cons_of_mem _ inductionHypothesis

theorem remembers_empty : Remembers {} [] where
  distinct := .nil
  mem_iff _ := Iff.rfl
  order := .nil
  last := nofun

/--
What is kept comes last of its name, and first if nothing of its name was there. The places of the
names that were there do not move when another one comes behind them.
-/
theorem Remembers.keep
    {session : Session}
    {kept : List Cookie}
    (remembers : session.Remembers kept)
    (cookie : Cookie) :
    (session.keep cookie).Remembers (kept ++ [cookie]) := by
  have distinct := nodup_place remembers.distinct cookie
  have isPlaced := map_name_place cookie session.cookies
  have wereNames :
      (kept ++ [cookie]).map Cookie.name = kept.map Cookie.name ++ [cookie.name] := by
    rw [List.map_append, List.map_singleton]
  have earlier
      {name : String}
      (wasThere : name ∈ session.cookies.map Cookie.name) :
      (kept.map Cookie.name ++ [cookie.name]).idxOf name = (kept.map Cookie.name).idxOf name :=
    List.idxOf_append_of_mem ((remembers.mem_iff name).mp wasThere)
  have order :
      (session.cookies.map Cookie.name).Pairwise fun name other =>
        (kept.map Cookie.name ++ [cookie.name]).idxOf name <
          (kept.map Cookie.name ++ [cookie.name]).idxOf other :=
    remembers.order.imp_of_mem fun isName isOther before => by
      rwa [earlier isName, earlier isOther]
  refine ⟨distinct, fun name => ?mem_iff, ?order, fun other member => ?last⟩
  case mem_iff =>
    show name ∈ (place cookie session.cookies).map Cookie.name ↔ _
    rw [isPlaced, wereNames, List.mem_append, ← remembers.mem_iff, List.mem_singleton]
    split
    next wasThere => exact ⟨.inl, (Or.elim · id (· ▸ wasThere))⟩
    next => rw [List.mem_append, List.mem_singleton]
  case order =>
    show ((place cookie session.cookies).map Cookie.name).Pairwise _
    rw [isPlaced, wereNames]
    split
    next => exact order
    next isNew =>
      refine List.pairwise_append.mpr ⟨order, List.pairwise_singleton _ _, ?_⟩
      intro name wasThere other isLast
      obtain rfl := List.mem_singleton.mp isLast
      rw [earlier wasThere,
        List.idxOf_append_of_notMem fun member => isNew ((remembers.mem_iff _).mpr member)]
      have inside := List.idxOf_lt_length_of_mem ((remembers.mem_iff name).mp wasThere)
      omega
  case last =>
    rw [List.filter_append, List.getLast?_append]
    by_cases sameName : other.name = cookie.name
    · obtain rfl : other = cookie :=
        List.inj_on_of_nodup_map distinct member (mem_place_self cookie _) sameName
      simp
    · have wasThere : other ∈ session.cookies :=
        (mem_place member).resolve_left fun same => sameName (congrArg Cookie.name same)
      simp [remembers.last other wasThere, Ne.symm sameName]

/-- A session that is given more remembers more. -/
theorem Remembers.store
    {session : Session}
    {kept : List Cookie}
    (remembers : session.Remembers kept)
    (given : List String) :
    (session.store given).Remembers (kept ++ given.filterMap Cookie.ofGiven?) := by
  unfold Session.store
  induction given.filterMap Cookie.ofGiven? generalizing session kept with
  | nil => rwa [List.append_nil]
  | cons cookie rest inductionHypothesis =>
      have next := inductionHypothesis (remembers.keep cookie)
      rwa [List.append_assoc] at next

/-- It makes no difference how what is given is divided into calls. -/
theorem ofResponses_eq (calls : List (List String)) :
    ofResponses calls = ({} : Session).store calls.flatten := by
  unfold ofResponses
  generalize ({} : Session) = session
  induction calls generalizing session with
  | nil => rfl
  | cons first rest inductionHypothesis =>
      rw [List.foldl_cons, inductionHypothesis, List.flatten_cons, store_append]

/-- A session remembers what all calls together have given. -/
theorem remembers_ofResponses (calls : List (List String)) :
    (ofResponses calls).Remembers (calls.flatten.filterMap Cookie.ofGiven?) := by
  rw [ofResponses_eq]
  exact remembers_empty.store calls.flatten

/-- The number of cookies that are kept is that of the texts that have one. -/
theorem keptCount_eq (given : List String) :
    keptCount given = given.countP Cookie.IsKept := by
  have areOf := (Cookie.areOf_filterMap_ofGiven? given).length_eq
  rw [keptCount, areOf, List.countP_eq_length_filter]

/-- Texts without a cookie make no difference to a session. -/
theorem store_filter
    (session : Session)
    (given : List String) :
    session.store (given.filter Cookie.IsKept) = session.store given := by
  rw [store, Cookie.filterMap_ofGiven?_filter, store]

/--
After any calls, a session has one cookie of every name that was kept, the one that came last, in
the order in which the names came first, and this tells all of it. A call returns how many texts
have a cookie; the others make no difference. The names and the values can be told apart.
-/
theorem last_cookies_in_order_of_first (calls : List (List String)) :
    (∃ kept : List Cookie,
        List.Forall₂ Cookie.IsOf kept (calls.flatten.filter Cookie.IsKept) ∧
          (ofResponses calls).Remembers kept ∧
          ∀ session : Session, session.Remembers kept → session = ofResponses calls) ∧
      (∀ given, keptCount given = given.countP Cookie.IsKept) ∧
      (∀ (session : Session) (given : List String),
        session.store given = session.store (given.filter Cookie.IsKept)) ∧
      ∀ cookie ∈ (ofResponses calls).cookies, cookie.IsClean := by
  have remembers := remembers_ofResponses calls
  refine ⟨⟨_, Cookie.areOf_filterMap_ofGiven? _, remembers, ?only⟩, keptCount_eq, ?others,
    (isJar_ofResponses calls).clean⟩
  case only => exact fun session alsoRemembers => alsoRemembers.unique remembers
  case others => exact fun session given => (session.store_filter given).symm

example :
    (ofResponses [["a=1", "\u00A0b = 2 ;Path=/", "b", " =c"], ["a = 3;b=4"]]).cookies =
      [⟨"a", "3"⟩, ⟨"b", "2"⟩] := by
  decide +kernel

end Session

end SecretsAdmin.Client
