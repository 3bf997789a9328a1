import ClusterLifecycle.Proofs.Evidence
import ClusterLifecycle.Proofs.Url.Hosts
import ClusterLifecycle.Proofs.Url.Reading

/-!
Where the address of an API leads.

* `Url.Reported`: hosts as they are reported;
* `Url.LeadsTo`, `Url.StandsBare`: an address that leads to a host at a port, and a host that may
  stand in one without brackets;
* `Endpoint.leadsTo_iff`: the address of an endpoint leads back to it for exactly the hosts that
  stand bare, and `Endpoint.unread_of_address6`: for an address of 128 bits it is none;
* `address_leads_iff`: so it is for what was observed, and for what a completed pass commits.
-/

namespace ClusterLifecycle

open Program Text

namespace Url

open Domain

variable {c : Char} {text host auth more : List Char} {port n : Nat}

/-- The texts of hosts as they are reported, and the hosts that they mean. -/
inductive Reported : List Char → Host → Prop
  | name {text : List Char} (filled : text ≠ []) (characters : ∀ c ∈ text, isNameCharacter c) :
      Reported text (.domain (lower text))
  | address4 {n : Nat} (small : n < Nat.pow 2 32) : Reported (Address4.toList n) (.address4 n)
  | address6 {text : List Char} {pieces : List Nat} (is : Address6.ofList? text = some pieces) :
      Reported text (.address6 pieces)

theorem Reported.ne_nil {h : Host} (reported : Reported text h) : text ≠ [] := by
  cases reported with
  | name filled characters => exact filled
  | address4 small => exact Address4.toList_ne_nil _
  | address6 is => exact List.ne_nil_of_mem (Address6.colon_of_ofList? is)

theorem Reported.ofList? {pieces : List Nat} (reported : Reported text (.address6 pieces)) :
    Address6.ofList? text = some pieces := by
  cases reported with
  | address6 is => exact is

section
variable [Naming]

/-- The text is an address of the host at the port, in the secure scheme of the web. -/
def LeadsTo (text : String) (host : Host) (port : Nat) : Prop :=
  ∃ u, ofString? text = some u ∧ u.scheme = "https".toList ∧ u.host = some host ∧
    u.port.or (defaultPort? u.scheme) = some port

/-- A host that is itself without brackets: an address of 32 bits, or a name that is taken for none.
A name in Punycode has to be one that is written so. -/
def StandsBare : Host → Prop
  | .domain name =>
    endsInNumber name = false ∧ (HasPunycode name → Naming.toAscii? name = some name)
  | .address4 _ => True
  | .address6 _ | .verbatim _ => False

end

/-! ### An authority of a host and a port -/

theorem splitPort_append (open_ : ∀ c ∈ host, c ≠ ':' ∧ c ≠ '[') (more : List Char) :
    splitPort false (host ++ ':' :: more) = (host, some more) := by
  induction host with
  | nil => rfl
  | cons c host ih =>
    obtain ⟨colon, bracket⟩ := open_ c List.mem_cons_self
    rw [List.cons_append, splitPort]
    simp [colon, bracket, ih fun d mem => open_ d (List.mem_cons_of_mem _ mem)]

theorem splitCredentials_of_free (free : '@' ∉ text) : splitCredentials text = (none, text) := by
  rw [splitCredentials, splitAtFirst_of_free (by simpa using free)]

section
variable [Naming]

theorem authority?_host (open_ : ∀ c ∈ host, c ≠ ':' ∧ c ≠ '[')
    (free : '@' ∉ host ++ ':' :: more) (scheme : List Char) :
    authority? scheme (host ++ ':' :: more) =
      if host.isEmpty then none
      else (Host.ofList? (isSpecial scheme) host).bind fun h =>
        (port? scheme more).map fun port => ([], [], h, port) := by
  rw [authority?, splitCredentials_of_free free]
  dsimp only [Option.getD_none, cut, splitAtFirst]
  rw [splitPort_append open_]
  cases host.isEmpty with
  | true => simp
  | false =>
    rw [Bool.false_and]
    cases Host.ofList? (isSpecial scheme) host with
    | none => rfl
    | some h =>
      change ((port? scheme more).bind fun port => some ([], [], h, port)) = _
      cases port? scheme more <;> rfl

end

theorem port?_decimal (scheme : List Char) (small : n < 65536) :
    port? scheme (decimal n) = some (if defaultPort? scheme = some n then none else some n) := by
  have filled : (decimal n).isEmpty = false := by simp [decimal]
  have digits : (decimal n).all isDecimalDigit = true :=
    List.all_eq_true.2 (isDecimalDigit_decimal n)
  have fits : (some n).filter (· < 65536) = some n :=
    Option.filter_some_pos (p := (· < 65536)) (decide_eq_true small)
  rw [port?, filled, digits, number?_decimal, fits]
  rfl

/-- A second colon leaves no port. -/
theorem port?_colon (scheme : List Char) (colon : ':' ∈ more) : port? scheme more = none := by
  have filled : more.isEmpty = false := by
    cases more with
    | nil => cases colon
    | cons c more => rfl
  have other : more.all isDecimalDigit = false := by
    rw [List.all_eq_false]
    exact ⟨':', colon, by decide⟩
  rw [port?, filled, other]
  rfl

/-! ### An address without a path -/

def secure : List Char := "https://".toList

/-- Where an authority stands alone behind the scheme, it is all there is to read. -/
theorem parse?_secure [Naming] (filled : auth ≠ [])
    (plain : ∀ c ∈ auth, blank c = false ∧ isEnd c = false ∧ isSlash true c = false) :
    ∃ query fragment, parse? none (secure ++ auth) =
      (authority? "https".toList auth).map fun place =>
        { address "https".toList [] place with query, fragment } := by
  have parts : Parts "https".toList secure auth [] :=
    { start := ⟨"https".toList, "//".toList, rfl, rfl, by decide,
        List.all_eq_true.1 (by decide), List.all_eq_true.1 (by decide)⟩
      filled, auth := fun c mem => (plain c mem).2.2, path := rfl }
  have opens : secure.all (fun c => !blank c && !isEnd c) = true := by decide
  have whole : ∀ c ∈ secure ++ auth, blank c = false ∧ isEnd c = false :=
    List.forall_mem_append.2 ⟨fun c mem => by simpa using List.all_eq_true.1 opens c mem,
      fun c mem => ⟨(plain c mem).1, (plain c mem).2.1⟩⟩
  refine parts.reads (.inr rfl) ?_
  rw [front_of_unmarked fun c mem => (whole c mem).2, clean_solid fun c mem => (whole c mem).1,
    List.append_nil]

/-- A host and a port, as an endpoint is written. -/
def pair (host : List Char) (port : Nat) : List Char := host ++ ':' :: decimal port

theorem nameCharacter_of_decimal (mem : c ∈ decimal n) : isNameCharacter c :=
  (apart_of_digit (isDecimalDigit_decimal n c mem)).2.2

/-- No character of a host or a port ends what it stands in. -/
theorem plain_of_character (is : isNameCharacter c ∨ c = ':') :
    c ≠ '@' ∧ c ≠ '[' ∧ blank c = false ∧ isEnd c = false ∧ isSlash true c = false := by
  rcases is with name | rfl
  · exact of_nameCharacter (p := fun c => c ≠ '@' ∧ c ≠ '[' ∧ blank c = false ∧ isEnd c = false ∧
      isSlash true c = false) (by decide) name
  · decide

theorem mem_pair (characters : ∀ c ∈ host, isNameCharacter c ∨ c = ':') :
    ∀ c ∈ pair host port, isNameCharacter c ∨ c = ':' :=
  List.forall_mem_append.2 ⟨characters, List.forall_mem_cons.2
    ⟨.inr rfl, fun _ mem => .inl (nameCharacter_of_decimal mem)⟩⟩

section
variable [Naming]

theorem parse?_pair (characters : ∀ c ∈ host, isNameCharacter c ∨ c = ':') (port : Nat) :
    ∃ query fragment, parse? none (secure ++ pair host port) =
      (authority? "https".toList (pair host port)).map fun place =>
        { address "https".toList [] place with query, fragment } := by
  refine parse?_secure (by simp [pair]) fun c mem => ?_
  exact (plain_of_character (mem_pair characters c mem)).2.2

theorem ofList?_bare (free : '[' ∉ host) : Host.ofList? true host = Host.ofDomain? host := by
  unfold Host.ofList?
  split
  · exact absurd List.mem_cons_self free
  · rfl

/-- The address of a name at a port leads to what the name is read as. -/
theorem leadsTo_pair {h : Host} (filled : host ≠ []) (name : ∀ c ∈ host, isNameCharacter c)
    (small : port < 65536) :
    LeadsTo (String.ofList (secure ++ pair host port)) h port ↔ Host.ofDomain? host = some h := by
  have characters : ∀ c ∈ host, isNameCharacter c ∨ c = ':' := fun c mem => .inl (name c mem)
  have open_ : ∀ c ∈ host, c ≠ ':' ∧ c ≠ '[' := by
    intro c mem
    refine ⟨?_, (plain_of_character (characters c mem)).2.1⟩
    rintro rfl
    exact absurd (name _ mem) (by decide)
  have free : '@' ∉ pair host port := fun mem => (plain_of_character (mem_pair characters _ mem)).1 rfl
  have special : isSpecial "https".toList = true := rfl
  have authority : authority? "https".toList (pair host port) =
      (Host.ofDomain? host).map fun h =>
        ([], [], h, if defaultPort? "https".toList = some port then none else some port) := by
    rw [pair, authority?_host open_ free, if_neg (by simpa using filled), special,
      ofList?_bare fun mem => (open_ _ mem).2 rfl, port?_decimal _ small]
    cases Host.ofDomain? host <;> rfl
  obtain ⟨query, fragment, parsed⟩ := parse?_pair characters port
  rw [LeadsTo, ofString?, String.toList_ofList, parsed, authority, Option.map_map]
  have back : (if defaultPort? "https".toList = some port then none else some port).or
      (defaultPort? "https".toList) = some port := by
    split
    next is => exact is
    next => rfl
  constructor
  · rintro ⟨u, found, -, is, -⟩
    obtain ⟨h', domain, rfl⟩ := Option.map_eq_some_iff.1 found
    rw [domain]
    exact is
  · intro domain
    rw [domain]
    exact ⟨_, rfl, rfl, rfl, back⟩

theorem leadsTo_name (standard : Naming.Standard) (filled : host ≠ [])
    (name : ∀ c ∈ host, isNameCharacter c) (small : port < 65536) :
    LeadsTo (String.ofList (secure ++ pair host port)) (.domain (lower host)) port ↔
      StandsBare (.domain (lower host)) := by
  rw [leadsTo_pair filled name small, ofDomain?_eq_domain_iff filled name,
    standard.toAscii?_iff name, StandsBare, and_comm]

/-- The colons of an address of 128 bits leave no port. -/
theorem parse?_address6 {pieces : List Nat} (is : Address6.ofList? host = some pieces) (port : Nat) :
    parse? none (secure ++ pair host port) = none := by
  have characters : ∀ c ∈ host, isNameCharacter c ∨ c = ':' := fun c mem =>
    nameCharacter_of_address (Address6.characters_of_ofList? is c mem)
  obtain ⟨query, fragment, parsed⟩ := parse?_pair characters port
  have free : '@' ∉ pair host port := fun mem => (plain_of_character (mem_pair characters _ mem)).1 rfl
  obtain ⟨before, after, whole, first⟩ :=
    List.eq_append_cons_of_mem (Address6.colon_of_ofList? is)
  have split : pair host port = before ++ ':' :: (after ++ ':' :: decimal port) := by
    rw [pair, whole]
    simp
  have open_ : ∀ c ∈ before, c ≠ ':' ∧ c ≠ '[' := by
    intro c mem
    constructor
    · rintro rfl
      exact first mem
    · refine (plain_of_character (characters c ?_)).2.1
      rw [whole]
      exact List.mem_append_left _ mem
  rw [split] at free
  rw [parsed, split, authority?_host open_ free, port?_colon _ (by simp)]
  simp

theorem leadsTo_reported (standard : Naming.Standard) {h : Host} (small : port < 65536)
    (reported : Reported text h) :
    LeadsTo (String.ofList (secure ++ pair text port)) h port ↔ StandsBare h := by
  cases reported with
  | name filled characters => exact leadsTo_name standard filled characters small
  | address4 fits =>
    refine (leadsTo_pair (Address4.toList_ne_nil _) (fun c mem => ?_) small).trans ?_
    · exact (nameCharacter_address4 mem).2
    · exact iff_of_true (ofDomain?_address4 standard fits) trivial
  | address6 is =>
    have unread := parse?_address6 is port
    refine iff_of_false ?_ id
    rintro ⟨u, found, -⟩
    rw [ofString?, String.toList_ofList, unread] at found
    cases found

end

end Url

namespace Endpoint

theorem address_eq (e : Endpoint) :
    e.address = String.ofList (Url.secure ++ Url.pair e.host.toList e.port.toNat) := by
  have digits (n : Nat) : toString n = String.ofList (decimal n) := Nat.repr_eq_ofList_toDigits
  have colon : ":" = String.ofList [':'] := rfl
  have scheme : "https://" = String.ofList Url.secure := rfl
  rw [address, digits, colon, scheme]
  apply String.toList_inj.1
  simp only [String.toList_append, String.toList_ofList, List.append_assoc, Url.pair,
    List.singleton_append]

variable {e : Endpoint} {host : Url.Host}

/-- An address of 128 bits runs into the colon of the port. -/
theorem unread_of_address6 [Url.Naming] {pieces : List Nat}
    (is : Url.Address6.ofList? e.host.toList = some pieces) : Url.ofString? e.address = none := by
  rw [address_eq, Url.ofString?, String.toList_ofList]
  exact Url.parse?_address6 is _

/-- The address of an endpoint leads back to it if and only if the host stands bare. -/
theorem leadsTo_iff [Url.Naming] (standard : Url.Naming.Standard)
    (reported : Url.Reported e.host.toList host) :
    Url.LeadsTo e.address host e.port.toNat ↔ Url.StandsBare host := by
  rw [address_eq]
  exact Url.leadsTo_reported standard e.port.toNat_lt reported

theorem isSet_of_reported (reported : Url.Reported e.host.toList host) (port : e.port ≠ 0) :
    e.IsSet := by
  refine ⟨?_, port⟩
  intro empty
  rw [empty] at reported
  exact reported.ne_nil rfl

end Endpoint

theorem endpoint_of_apiAddress {o : ClusterObservation} {address : String}
    (given : o.apiAddress = .ok address) :
    ∃ e, o.endpoint = some e ∧ e.IsSet ∧ address = e.address := by
  by_cases set_ : ∃ e, o.endpoint = some e ∧ e.IsSet
  · obtain ⟨e, at_, parts⟩ := set_
    rw [ClusterObservation.apiAddress_of_set at_ parts] at given
    exact ⟨e, at_, parts, (Except.ok.inj given).symm⟩
  · rw [ClusterObservation.apiAddress_of_unset fun e at_ parts => set_ ⟨e, at_, parts⟩] at given
    cases given

/-- A pass that declares a cluster created or updated commits the address of an endpoint that it has
seen. -/
theorem committed_of_reached {d : Deployment} {c c' : Cluster} {r : Result Unit} {log : Log services}
    (reached : Reaches (Logged Anyhow) (d.updateClusterStatus.run.run c) ((), [])
      (.done (r, c')) ((), log))
    (moved : c'.status ≠ c.status)
    (complete : c'.status = ⟨.create, .complete⟩ ∨ c'.status = ⟨.update, .complete⟩) :
    ∃ o e, d.ClusterSeen c log o ∧ o.endpoint = some e ∧ e.IsSet ∧
      c'.apiAddress = some e.address := by
  have ends : d.Addressed c c' ((), log) :=
    (Deployment.of_provisioningPass (fun _ => ⟨.inl rfl, .inl rfl⟩)
      Deployment.sees_provisioningPass reached complete).2
  obtain ⟨o, address, seen, given, committed⟩ := ends.resolve_left moved
  obtain ⟨e, at_, parts, rfl⟩ := endpoint_of_apiAddress given
  exact ⟨o, e, seen, at_, parts, committed⟩

/-- Of an endpoint that is observed an address is made, which leads back to it if and only if the
host stands bare; an address of 128 bits makes none. What a completed pass commits is made so, of an
endpoint that it has seen. -/
theorem address_leads_iff [Url.Naming] (standard : Url.Naming.Standard) {o : ClusterObservation}
    {e : Endpoint} {host : Url.Host} (at_ : o.endpoint = some e)
    (reported : Url.Reported e.host.toList host) (port : e.port ≠ 0) :
    o.apiAddress = .ok e.address ∧
      (Url.LeadsTo e.address host e.port.toNat ↔ Url.StandsBare host) ∧
      ((∃ pieces, host = .address6 pieces) → Url.ofString? e.address = none) ∧
      ∀ (d : Deployment) (c c' : Cluster) (r : Result Unit) (log : Log services),
        Reaches (Logged Anyhow) (d.updateClusterStatus.run.run c) ((), [])
          (.done (r, c')) ((), log) →
        c'.status ≠ c.status →
        c'.status = ⟨.create, .complete⟩ ∨ c'.status = ⟨.update, .complete⟩ →
        ∃ seen e', d.ClusterSeen c log seen ∧ seen.endpoint = some e' ∧ e'.IsSet ∧
          c'.apiAddress = some e'.address := by
  refine ⟨ClusterObservation.apiAddress_of_set at_ (e.isSet_of_reported reported port),
    e.leadsTo_iff standard reported, ?_, ?_⟩
  · rintro ⟨pieces, rfl⟩
    exact e.unread_of_address6 reported.ofList?
  · intro d c c' r log reached moved complete
    exact committed_of_reached reached moved complete

theorem address_leads_sample :
    let e : Endpoint := ⟨"10.6.0.78", 443⟩
    let o : ClusterObservation := { object := "Cluster/demo", conditions := [], endpoint := some e }
    let d := Deployment.sample
    let c := Cluster.sample .nil
    o.apiAddress = .ok e.address ∧ Url.LeadsTo e.address (.address4 168165454) 443 ∧
      ∃ r c' log, Reaches (Logged Anyhow) (d.updateClusterStatus.run.run c) ((), [])
          (.done (r, c')) ((), log) ∧
        c'.status ≠ c.status ∧ c'.status = ⟨.create, .complete⟩ ∧
        ∃ seen e', d.ClusterSeen c log seen ∧ seen.endpoint = some e' ∧ e'.IsSet ∧
          c'.apiAddress = some e'.address := by
  intro e o d c
  have text : e.host.toList = Url.Address4.toList 168165454 := by decide +kernel
  have reported : Url.Reported e.host.toList (.address4 168165454) := by
    rw [text]
    exact .address4 (by decide)
  obtain ⟨given, leads, -, committed⟩ :=
    address_leads_iff Url.Domain.standard (o := o) rfl reported (by decide)
  let ran := (d.updateClusterStatus.run.run c).run (I := services) (always obliging) ((), [])
  have reached : Reaches (Logged Anyhow) (d.updateClusterStatus.run.run c) ((), [])
      (.done (ran.1.1, ran.1.2)) ((), ran.2.2) := reaches_run (logged_always obliging) _ _
  have complete : ran.1.2.status = ⟨.create, .complete⟩ := by decide +kernel
  have moved : ran.1.2.status ≠ c.status := by
    rw [complete]
    decide
  exact ⟨given, leads.2 trivial, _, _, _, reached, moved, complete,
    committed d c _ _ _ reached moved (.inl complete)⟩

/-- An address of 128 bits as it is reported, without brackets. -/
example : Url.Address6.ofList? "fd00::1".toList = some [0xfd00, 0, 0, 0, 0, 0, 0, 1] ∧
    Url.ofString? (Endpoint.address ⟨"fd00::1", 6443⟩) = none := by
  decide +kernel

end ClusterLifecycle
