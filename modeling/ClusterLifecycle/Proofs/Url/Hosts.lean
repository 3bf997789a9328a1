import ClusterLifecycle.Proofs.Url.Paths

/-!
Hosts of web addresses read back from their texts.

* `Naming.Standard`: what is known of names in ASCII, and `Domain.standard`: so they are read here;
* `ofDomain?_name`: a text of letters, digits, hyphens, underscores and dots is a domain name, in
  small letters, if it stays one in ASCII and does not have to be an address;
* `Address4.ofList?_toList`, `ofDomain?_address4`: an address of 32 bits as four numbers;
* `Address6.mem_of_ofList?`, `Address6.colon_of_ofList?`: what an address of 128 bits is written in.
-/

namespace ClusterLifecycle

open Text

namespace Url

open Domain

variable {c : Char} {text label : List Char}

/-! ### Bytes -/

theorem decode_of_free (free : '%' ∉ text) : Percent.decode text = utf8 text := by
  induction text with
  | nil => rw [Percent.decode]; rfl
  | cons c text ih =>
    obtain ⟨other, free⟩ := not_or.1 (mt List.mem_cons.2 free)
    rw [Percent.decode.eq_3, ih free]
    · simp [utf8]
    · rintro a b rest rfl
      exact absurd rfl other

theorem fromUTF8?_utf8 (text : List Char) :
    String.fromUTF8? ⟨(utf8 text).toArray⟩ = some (String.ofList text) := by
  have bytes : (⟨(utf8 text).toArray⟩ : ByteArray) = text.utf8Encode := by
    apply ByteArray.ext
    rw [List.utf8Encode, List.data_toByteArray]
    rfl
  rw [bytes, String.fromUTF8?, dif_pos ⟨text, rfl⟩]
  rfl

/-! ### Names -/

/-- A character of domain names. -/
def isNameCharacter (c : Char) : Bool := isWord c || c = '.'

theorem of_nameCharacter {p : Char → Prop}
    (all : ∀ n < 128, isNameCharacter (Char.ofNat n) → p (Char.ofNat n))
    (name : isNameCharacter c) : p c := by
  rcases Bool.or_eq_true_iff.1 name with word | dot
  · refine of_word (fun n small word => all n small ?_) word
    rw [isNameCharacter, word, Bool.true_or]
  · rw [of_decide_eq_true dot]
    exact all 46 (by decide) (by decide)

theorem apart_of_nameCharacter (name : isNameCharacter c) :
    c.toNat < 128 ∧ c ≠ '%' ∧ Host.isForbiddenInDomain c = false :=
  of_nameCharacter (p := fun c => c.toNat < 128 ∧ c ≠ '%' ∧ Host.isForbiddenInDomain c = false)
    (by decide) name

theorem lower_name (name : ∀ c ∈ text, isNameCharacter c) :
    ∀ c ∈ lower text, isNameCharacter c := by
  intro c mem
  obtain ⟨d, there, rfl⟩ := List.mem_map.1 mem
  exact of_nameCharacter (p := fun c => isNameCharacter c.toLower) (by decide) (name d there)

theorem free_of_name (name : ∀ c ∈ text, isNameCharacter c) : '%' ∉ text :=
  fun mem => (apart_of_nameCharacter (name _ mem)).2.1 rfl

theorem isAscii_name (name : ∀ c ∈ text, isNameCharacter c) : isAscii text = true :=
  List.all_eq_true.2 fun c mem => decide_eq_true (apart_of_nameCharacter (name c mem)).1

theorem mapM_self {α : Type} {f : α → Option α} {items : List α} (all : ∀ a ∈ items, f a = some a) :
    items.mapM f = some items := by
  induction items with
  | nil => rfl
  | cons a items ih =>
    obtain ⟨one, others⟩ := List.forall_mem_cons.1 all
    rw [List.mapM_cons, one, ih others]
    rfl

/-- Some label of the name is in Punycode. -/
def HasPunycode (name : List Char) : Prop := ∃ label ∈ splitAll '.' name, acePrefix <+: label

/-- What the standard of URLs says of names of letters, digits, hyphens, underscores and dots. -/
structure Naming.Standard [Naming] : Prop where
  /-- Capitals count for nothing. -/
  capitals {text : List Char} (name : ∀ c ∈ text, isNameCharacter c) :
    Naming.toAscii? (lower text) = Naming.toAscii? text
  /-- Where nothing is in Punycode, a name is written in its small letters. -/
  plain {text : List Char} (name : ∀ c ∈ text, isNameCharacter c)
    (clear : ¬HasPunycode (lower text)) : Naming.toAscii? text = some (lower text)

/-- A name stays as it is but for its capitals, unless something in it is in Punycode that may not
be. -/
theorem Naming.Standard.toAscii?_iff [Naming] (standard : Naming.Standard)
    (name : ∀ c ∈ text, isNameCharacter c) :
    Naming.toAscii? text = some (lower text) ↔
      (HasPunycode (lower text) → Naming.toAscii? (lower text) = some (lower text)) := by
  rw [standard.capitals name]
  constructor
  · exact fun stays _ => stays
  · intro stays
    by_cases punycode : HasPunycode (lower text)
    · exact stays punycode
    · exact standard.plain name punycode

namespace Domain

theorem fold_name (name : isNameCharacter c) :
    within ignoredRuns c = false ∧ fold c = c.toLower ∧ c.toLower.toLower = c.toLower :=
  of_nameCharacter (p := fun c => within ignoredRuns c = false ∧ fold c = c.toLower ∧
    c.toLower.toLower = c.toLower) (by decide +kernel) name

theorem lower_lower (name : ∀ c ∈ text, isNameCharacter c) : lower (lower text) = lower text := by
  rw [lower, lower, List.map_map]
  exact List.map_congr_left fun c mem => (fold_name (name c mem)).2.2

theorem toAscii?_name (name : ∀ c ∈ text, isNameCharacter c) :
    toAscii? text = ((splitAll '.' (lower text)).mapM label?).map (joinAll '.') := by
  have kept : text.filter (fun c => !within ignoredRuns c) = text :=
    List.filter_eq_self.2 fun c mem => by rw [(fold_name (name c mem)).1, Bool.not_false]
  have folded : text.map fold = lower text :=
    List.map_congr_left fun c mem => (fold_name (name c mem)).2.1
  rw [toAscii?, kept, folded]
  cases (splitAll '.' (lower text)).mapM label? <;> rfl

theorem label?_plain (ascii : isAscii label = true) (clear : ¬acePrefix <+: label) :
    label? label = some label := by
  have none_ : dropStart? acePrefix label = none := by
    cases code : dropStart? acePrefix label with
    | none => rfl
    | some code' => exact absurd ⟨code', (eq_append_of_dropStart? code).symm⟩ clear
  rw [label?, if_pos ascii, none_]

/-- The names that are read here are as the standard says. -/
theorem standard : Naming.Standard where
  capitals name := by
    change toAscii? _ = toAscii? _
    rw [toAscii?_name (lower_name name), toAscii?_name name, lower_lower name]
  plain {text} name clear := by
    have labels : (splitAll '.' (lower text)).mapM label? = some (splitAll '.' (lower text)) := by
      refine mapM_self fun label there => ?_
      have ascii : isAscii label = true :=
        isAscii_name fun c mem => lower_name name c (mem_of_splitAll there mem)
      exact label?_plain ascii fun punycode => clear ⟨label, there, punycode⟩
    change toAscii? _ = _
    rw [toAscii?_name name, labels, Option.map_some, joinAll_splitAll]

end Domain

section
variable [Naming]

theorem ofDomain?_of_free (free : '%' ∉ text) :
    Host.ofDomain? text = (Naming.toAscii? text).bind fun name =>
      if name.isEmpty || name.any Host.isForbiddenInDomain then none
      else if endsInNumber name then (Address4.ofList? name).map .address4
      else some (.domain name) := by
  rw [Host.ofDomain?, decode_of_free free, fromUTF8?_utf8]
  simp only [Option.bind_eq_bind, Option.bind_some, String.toList_ofList]

/-- What a name means that stays as it is: an address if its last label is a number, else a
domain. -/
theorem ofDomain?_name (filled : text ≠ []) (name : ∀ c ∈ text, isNameCharacter c)
    (stays : Naming.toAscii? text = some (lower text)) :
    Host.ofDomain? text =
      if endsInNumber (lower text) then (Address4.ofList? (lower text)).map .address4
      else some (.domain (lower text)) := by
  have allowed : (lower text).any Host.isForbiddenInDomain = false := by
    rw [List.any_eq_false]
    intro c mem
    simp [(apart_of_nameCharacter (lower_name name c mem)).2.2]
  have filled' : (lower text).isEmpty = false := by
    cases text with
    | nil => exact absurd rfl filled
    | cons c text => rfl
  rw [ofDomain?_of_free (free_of_name name), stays, Option.bind_some, filled', allowed]
  rfl

/-- A name is its own domain where it stays as it is and is no address. -/
theorem ofDomain?_eq_domain_iff (filled : text ≠ []) (name : ∀ c ∈ text, isNameCharacter c) :
    Host.ofDomain? text = some (.domain (lower text)) ↔
      Naming.toAscii? text = some (lower text) ∧ endsInNumber (lower text) = false := by
  constructor
  · intro is
    rw [ofDomain?_of_free (free_of_name name)] at is
    obtain ⟨ascii, named, is⟩ := Option.bind_eq_some_iff.1 is
    split at is
    next => cases is
    next =>
      split at is
      next =>
        obtain ⟨_, -, other⟩ := Option.map_eq_some_iff.1 is
        cases other
      next domain =>
        obtain rfl : ascii = lower text := Host.domain.inj (Option.some.inj is)
        exact ⟨named, by simpa using domain⟩
  · rintro ⟨stays, domain⟩
    rw [ofDomain?_name filled name stays, domain]
    rfl

end

/-! ### Addresses of 32 bits -/

theorem addressNumber?_decimal (n : Nat) : addressNumber? (decimal n) = some n := by
  rcases Nat.eq_zero_or_pos n with rfl | positive
  · rfl
  · have filled : decimal n ≠ [] := Nat.toDigits_ne_nil
    obtain ⟨c, rest, digits⟩ := List.exists_cons_of_ne_nil filled
    have leads : c ≠ '0' := by
      have head := head?_decimal positive
      rw [digits] at head
      exact fun zero => head (congrArg some zero)
    have plain : addressNumber? (c :: rest) = number? 10 (c :: rest) := by
      unfold addressNumber?
      split <;> simp_all
    rw [digits, plain, ← digits, number?_decimal]

theorem apart_of_digit (digit : isDecimalDigit c) :
    c ≠ '.' ∧ c.toLower = c ∧ isNameCharacter c :=
  of_digit (p := fun c => c ≠ '.' ∧ c.toLower = c ∧ isNameCharacter c) (by decide) digit

/-- Four numbers that an address is written in. -/
def Address4.numbers (n : Nat) : List Nat := [3, 2, 1, 0].map fun i => n / Nat.pow 256 i % 256

theorem Address4.toList_eq (n : Nat) :
    Address4.toList n = joinAll '.' ((Address4.numbers n).map decimal) := rfl

theorem splitAll_address4 (n : Nat) :
    splitAll '.' (Address4.toList n) = (Address4.numbers n).map decimal := by
  rw [Address4.toList_eq, splitAll_joinAll (by simp [Address4.numbers])]
  intro part there dot
  obtain ⟨m, -, rfl⟩ := List.mem_map.1 there
  exact (apart_of_digit (isDecimalDigit_decimal m _ dot)).1 rfl

theorem Address4.toList_ne_nil (n : Nat) : Address4.toList n ≠ [] := by
  intro empty
  have parts := splitAll_address4 n
  rw [empty] at parts
  exact absurd (congrArg List.length parts) (by simp [splitAll, Address4.numbers])

theorem addressParts_address4 (n : Nat) :
    addressParts (Address4.toList n) = (Address4.numbers n).map decimal := by
  have last : ((Address4.numbers n).map decimal).getLast? ≠ some [] := by
    simp [Address4.numbers, decimal, Nat.toDigits_ne_nil]
  rw [addressParts, splitAll_address4]
  exact if_neg fun ⟨_, empty⟩ => last empty

theorem Address4.ofList?_bytes {a b c d : Nat}
    (parts : addressParts text = [a, b, c, d].map decimal) (a_small : a < 256) (b_small : b < 256)
    (c_small : c < 256) (d_small : d < 256) :
    Address4.ofList? text = some (d + a * 16777216 + b * 65536 + c * 256) := by
  have numbers : ([a, b, c, d].map decimal).mapM addressNumber? = some [a, b, c, d] := by
    simp [addressNumber?_decimal]
  have fits : (decide ([a, b, c, d].length ≤ 4) && [a, b, c].all (· < 256) &&
      decide (d < Nat.pow 256 (5 - [a, b, c, d].length))) = true := by
    simp [a_small, b_small, c_small, d_small]
  rw [Address4.ofList?, parts, numbers]
  exact if_pos fits

/-- An address is read back from what it is written as. -/
theorem Address4.ofList?_toList {n : Nat} (small : n < 4294967296) :
    Address4.ofList? (Address4.toList n) = some n := by
  have byte (i : Nat) : n / Nat.pow 256 i % 256 < 256 := Nat.mod_lt _ (by decide)
  rw [Address4.ofList?_bytes (addressParts_address4 n) (byte 3) (byte 2) (byte 1) (byte 0)]
  have powers : Nat.pow 256 3 = 16777216 ∧ Nat.pow 256 2 = 65536 ∧ Nat.pow 256 1 = 256 ∧
      Nat.pow 256 0 = 1 := by decide
  obtain ⟨three, two, one, zero⟩ := powers
  dsimp only
  rw [three, two, one, zero]
  congr 1
  omega

theorem nameCharacter_address4 {n : Nat} (mem : c ∈ Address4.toList n) :
    c.toLower = c ∧ isNameCharacter c := by
  rw [Address4.toList_eq] at mem
  rcases mem_joinAll mem with rfl | ⟨part, there, mem⟩
  · decide
  · obtain ⟨m, -, rfl⟩ := List.mem_map.1 there
    exact (apart_of_digit (isDecimalDigit_decimal m c mem)).2

theorem lower_address4 (n : Nat) : lower (Address4.toList n) = Address4.toList n :=
  (List.map_congr_left fun _ mem => (nameCharacter_address4 mem).1).trans (List.map_id _)

theorem not_hasPunycode_address4 (n : Nat) : ¬HasPunycode (Address4.toList n) := by
  rintro ⟨label, there, code, rfl⟩
  rw [splitAll_address4] at there
  obtain ⟨m, -, is⟩ := List.mem_map.1 there
  have digit := isDecimalDigit_decimal m 'x'
  rw [is] at digit
  exact absurd (digit List.mem_cons_self) (by decide)

theorem ofDomain?_address4 [Naming] (standard : Naming.Standard) {n : Nat}
    (small : n < 4294967296) : Host.ofDomain? (Address4.toList n) = some (.address4 n) := by
  have name : ∀ c ∈ Address4.toList n, isNameCharacter c :=
    fun c mem => (nameCharacter_address4 mem).2
  have stays : Naming.toAscii? (Address4.toList n) = some (lower (Address4.toList n)) := by
    refine standard.plain name ?_
    rw [lower_address4]
    exact not_hasPunycode_address4 n
  have number : endsInNumber (Address4.toList n) = true := by
    rw [endsInNumber, addressParts_address4]
    simp [Address4.numbers, addressNumber?_decimal]
  rw [ofDomain?_name (Address4.toList_ne_nil n) name stays, lower_address4, if_pos number,
    Address4.ofList?_toList small]
  rfl

/-! ### Addresses of 128 bits -/

/-- A character that an address of 128 bits is written in. -/
def isAddressCharacter (c : Char) : Bool := (digitValue? 16 c).isSome || c = ':' || c = '.'

/-- So it is a character of names, or a colon. -/
theorem nameCharacter_of_address (is : isAddressCharacter c) : isNameCharacter c ∨ c = ':' := by
  have ascii : (digitValue? 16 c).isSome → c.toNat < 128 := by
    intro digit
    obtain ⟨d, found⟩ := Option.isSome_iff_exists.1 digit
    unfold digitValue? at found
    obtain ⟨found, -⟩ := Option.filter_eq_some_iff.1 found
    simp only [Char.le_def, UInt32.le_iff_toNat_le] at found
    have nine : '9'.val.toNat = 57 := rfl
    have small : 'f'.val.toNat = 102 := rfl
    have capital : 'F'.val.toNat = 70 := rfl
    have code : c.toNat = c.val.toNat := rfl
    split at found
    next => omega
    next =>
      split at found
      next => omega
      next =>
        split at found
        next => omega
        next => cases found
  simp only [isAddressCharacter, Bool.or_eq_true, decide_eq_true_eq] at is
  rcases is with (digit | colon) | rfl
  · exact .inl (of_ascii (p := fun c => (digitValue? 16 c).isSome → isNameCharacter c) (by decide)
      (ascii digit) digit)
  · exact .inr colon
  · exact .inl (by decide)

theorem mem_of_mapM {α β : Type} {f : α → Option β} {items : List α} {found : List β}
    (all : items.mapM f = some found) : ∀ a ∈ items, ∃ b, f a = some b := by
  induction items generalizing found with
  | nil => nofun
  | cons a items ih =>
    rw [List.mapM_cons] at all
    obtain ⟨b, one, all⟩ := Option.bind_eq_some_iff.1 all
    obtain ⟨rest, others, -⟩ := Option.bind_eq_some_iff.1 all
    exact List.forall_mem_cons.2 ⟨⟨b, one⟩, ih others⟩

theorem digits_of_numberFrom? {base n m : Nat} (is : numberFrom? base n text = some m) :
    ∀ c ∈ text, (digitValue? base c).isSome := by
  induction text generalizing n with
  | nil => nofun
  | cons c text ih =>
    obtain ⟨d, digit, rest⟩ := Option.bind_eq_some_iff.1 is
    exact List.forall_mem_cons.2 ⟨by rw [digit]; rfl, ih rest⟩

theorem digits_of_number? {base m : Nat} (is : number? base text = some m) :
    ∀ c ∈ text, (digitValue? base c).isSome := by
  cases text with
  | nil => nofun
  | cons c text => exact digits_of_numberFrom? is

namespace Address6

theorem digits_of_byte? {n : Nat} (is : byte? text = some n) :
    ∀ c ∈ text, (digitValue? 16 c).isSome := by
  unfold byte? at is
  split at is
  next =>
    intro c mem
    have small := digits_of_number? (Option.filter_eq_some_iff.1 is).1 c mem
    unfold digitValue? at small ⊢
    obtain ⟨d, digit⟩ := Option.isSome_iff_exists.1 small
    obtain ⟨found, ten⟩ := Option.filter_eq_some_iff.1 digit
    have sixteen : d < 16 := Nat.lt_trans (of_decide_eq_true ten) (by decide)
    exact Option.isSome_iff_exists.2 ⟨d, Option.filter_eq_some_iff.2
      ⟨found, decide_eq_true sixteen⟩⟩
  next => cases is

theorem digits_of_piece? {n : Nat} (is : piece? text = some n) :
    ∀ c ∈ text, (digitValue? 16 c).isSome := by
  unfold piece? at is
  split at is
  next => exact digits_of_number? is
  next => cases is

theorem characters_of_bytes? {found : List Nat} (is : bytes? text = some found) :
    ∀ c ∈ text, isAddressCharacter c := by
  intro c mem
  obtain ⟨numbers, all, -⟩ := Option.bind_eq_some_iff.1 is
  rw [← joinAll_splitAll '.' text] at mem
  rcases mem_joinAll mem with rfl | ⟨part, there, mem⟩
  · decide
  · obtain ⟨n, byte⟩ := mem_of_mapM all part there
    simp [isAddressCharacter, digits_of_byte? byte c mem]

theorem length_of_bytes? {found : List Nat} (is : bytes? text = some found) : found.length = 2 := by
  obtain ⟨numbers, -, four⟩ := Option.bind_eq_some_iff.1 is
  split at four
  next =>
    cases four
    rfl
  next => cases four

theorem characters_of_piece? {n : Nat} (is : piece? text = some n) :
    ∀ c ∈ text, isAddressCharacter c := by
  intro c mem
  simp [isAddressCharacter, digits_of_piece? is c mem]

theorem characters_of_pieces? {allowed : Bool} {found : List Nat}
    (is : pieces? allowed text = some found) : ∀ c ∈ text, isAddressCharacter c := by
  unfold pieces? at is
  split at is
  next empty =>
    rw [List.isEmpty_iff.1 empty]
    nofun
  next =>
    obtain ⟨front, fronts, is⟩ := Option.bind_eq_some_iff.1 is
    obtain ⟨last, ends, is⟩ := Option.bind_eq_some_iff.1 is
    have lasts : ∀ c ∈ last, isAddressCharacter c := by
      split at is
      next n piece => exact characters_of_piece? piece
      next =>
        split at is
        next =>
          obtain ⟨bytes, four, -⟩ := Option.map_eq_some_iff.1 is
          exact characters_of_bytes? four
        next => cases is
    intro c mem
    rw [← joinAll_splitAll ':' text] at mem
    rcases mem_joinAll mem with rfl | ⟨part, there, mem⟩
    · decide
    · rw [← List.dropLast_append_getLast? last ends, List.mem_append, List.mem_singleton] at there
      rcases there with there | rfl
      · obtain ⟨n, piece⟩ := mem_of_mapM fronts part there
        exact characters_of_piece? piece c mem
      · exact lasts c mem

/-- A text without a colon is one piece, or two. -/
theorem length_of_pieces? {allowed : Bool} {found : List Nat} (free : ':' ∉ text)
    (is : pieces? allowed text = some found) : found.length ≤ 2 := by
  unfold pieces? at is
  split at is
  next =>
    cases is
    exact Nat.zero_le 2
  next =>
    rw [splitAll_of_free free] at is
    obtain ⟨front, fronts, is⟩ := Option.bind_eq_some_iff.1 is
    obtain ⟨last, ends, is⟩ := Option.bind_eq_some_iff.1 is
    obtain rfl : [] = front := Option.some.inj fronts
    obtain rfl : text = last := Option.some.inj ends
    split at is
    next =>
      cases is
      exact Nat.le_succ 1
    next =>
      split at is
      next =>
        obtain ⟨bytes, four, rfl⟩ := Option.map_eq_some_iff.1 is
        rw [List.nil_append, length_of_bytes? four]
      next => cases is

theorem eq_of_splitAtGap {before after : List Char} (is : splitAtGap text = some (before, after)) :
    text = before ++ ':' :: ':' :: after := by
  induction text using splitAtGap.induct generalizing before with
  | case1 rest =>
    rw [splitAtGap] at is
    cases is
    rfl
  | case2 c rest other ih =>
    rw [splitAtGap.eq_2 _ _ other] at is
    obtain ⟨⟨before', after'⟩, found, same⟩ := Option.map_eq_some_iff.1 is
    cases same
    rw [ih found, List.cons_append]
  | case3 => cases is

/-- An address is written in hexadecimal digits, colons and dots. -/
theorem characters_of_ofList? {pieces : List Nat} (is : ofList? text = some pieces) :
    ∀ c ∈ text, isAddressCharacter c := by
  unfold ofList? at is
  split at is
  next => exact characters_of_pieces? (Option.filter_eq_some_iff.1 is).1
  next before after gap =>
    obtain ⟨front, fronts, is⟩ := Option.bind_eq_some_iff.1 is
    obtain ⟨back, backs, -⟩ := Option.bind_eq_some_iff.1 is
    rw [eq_of_splitAtGap gap]
    refine List.forall_mem_append.2 ⟨characters_of_pieces? fronts, ?_⟩
    refine List.forall_mem_cons.2 ⟨by decide, List.forall_mem_cons.2 ⟨by decide, ?_⟩⟩
    exact characters_of_pieces? backs

/-- No address is written without a colon. -/
theorem colon_of_ofList? {pieces : List Nat} (is : ofList? text = some pieces) : ':' ∈ text := by
  unfold ofList? at is
  split at is
  next =>
    obtain ⟨found, eight⟩ := Option.filter_eq_some_iff.1 is
    by_contra free
    have short := length_of_pieces? free found
    rw [of_decide_eq_true eight] at short
    omega
  next before after gap =>
    rw [eq_of_splitAtGap gap]
    simp

end Address6

end Url

end ClusterLifecycle
