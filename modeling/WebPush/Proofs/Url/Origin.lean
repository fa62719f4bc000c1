import WebPush.Notification
import WebPush.Proofs.Url.Address
import WebPush.Proofs.Url.Authority
/-!
# Url — the origin as a normal form

One origin has many spellings: capital letters, user information, zeros
in front of a port, a port that goes without saying, and whatever comes
behind the authority. All spellings of an origin have it as their origin,
and the origin is one of them.
-/

namespace WebPush

namespace Url

/-! ## Spellings -/

/-- A character that an authority holds as it is: ASCII, not dropped, and none that ends it. -/
def inAuthority (c : Char) : Bool := c.toNat < 128 && !isDropped c && !endsAuthority c

/-- A character of user information. -/
def inUserInfo (c : Char) : Bool := inAuthority c && c != '[' && c != ']'

/-- A character of the name of a host. -/
def inHostName (c : Char) : Bool := inUserInfo c && c != '@' && c != ':' && c != '%'

/-- What may stand for a host: a name, or an address in brackets without a zone. -/
inductive IsHost : List Char → Prop
  | name {name : List Char} : name ≠ [] → (∀ c ∈ name, inHostName c = true) → IsHost name
  | address {address : List Char} : isIPv6 address = true → '%' ∉ address →
      IsHost ('[' :: (address ++ [']']))

/-- What may stand for a port: nothing, or the digits of a number that is one. -/
structure IsPort (digits : List Char) : Prop where
  allDigits : ∀ c ∈ digits, isDigit c = true
  short : digits.length ≤ 4300
  inRange : decimalValue digits ≤ 65535

/-- An address and how it is spelled: a scheme, user information or none, a host, a port or none,
and what follows. -/
structure Spelling where
  scheme : List Char
  user : Option (List Char)
  host : List Char
  port : Option (List Char)
  tail : List Char
  isScheme_scheme : isScheme scheme = true
  inUserInfo_user : ∀ name ∈ user, ∀ c ∈ name, inUserInfo c = true
  isHost_host : IsHost host
  isPort_port : ∀ digits ∈ port, IsPort digits
  followsAuthority_tail : FollowsAuthority tail

namespace Spelling

/-- The user information with the character behind it. -/
def userText (e : Spelling) : List Char := (e.user.map (· ++ ['@'])).getD []

/-- The port with the colon in front of it. -/
def portText (e : Spelling) : List Char := (e.port.map (':' :: ·)).getD []

/-- The authority. -/
def authority (e : Spelling) : List Char := e.userText ++ (e.host ++ e.portText)

/-- The address. -/
def text (e : Spelling) : String := String.ofList (written e.scheme e.authority e.tail)

/-- The digits of the port, if there are any. -/
def digits (e : Spelling) : List Char := e.port.getD []

/-- The scheme in small letters. -/
def lowerScheme (e : Spelling) : List Char := e.scheme.map Char.toLower

/-- The host in small letters. -/
def lowerHost (e : Spelling) : List Char := e.host.map Char.toLower

/-- The port in decimal, where it has to be told: it is given, and is not the one that the scheme
has anyway. -/
def normalPort (e : Spelling) : Option (List Char) :=
  if e.digits = [] ∨ defaultPort? e.lowerScheme = some (decimalValue e.digits) then none
  else some (toString (decimalValue e.digits)).toList

/-- **The normal form** of an address, as far as its authority: scheme and host in small letters,
and the port behind a colon where it has to be told. -/
def normalForm (e : Spelling) : String :=
  String.ofList (e.lowerScheme ++ "://".toList ++ e.lowerHost ++
    (e.normalPort.map (':' :: ·)).getD [])

/-- The number of the port, given or not, if there is one. -/
def effectivePort (e : Spelling) : Option Nat :=
  if e.digits = [] then defaultPort? e.lowerScheme else some (decimalValue e.digits)

/-- Two spellings differ in capital letters of scheme and host, in the user information, in how
the port is given, and in what follows the authority, and in nothing else. -/
structure Agrees (e e' : Spelling) : Prop where
  scheme : e.lowerScheme = e'.lowerScheme
  host : e.lowerHost = e'.lowerHost
  port : e.effectivePort = e'.effectivePort

end Spelling

/-! ## Characters -/

theorem of_inUserInfo {c : Char} (h : inUserInfo c = true) :
    inAuthority c = true ∧ c ≠ '[' ∧ c ≠ ']' := by
  simpa [inUserInfo, and_assoc] using h

theorem of_inHostName {c : Char} (h : inHostName c = true) :
    inUserInfo c = true ∧ c ≠ '@' ∧ c ≠ ':' ∧ c ≠ '%' := by
  simpa [inHostName, and_assoc] using h

/-- Hexadecimal digits may stand in the name of a host. -/
theorem inHostName_of_isHexDigit {c : Char} (h : isHexDigit c = true) : inHostName c = true := by
  have hbelow : c.toNat < 128 := by
    simp only [isHexDigit, isDigit, Bool.or_eq_true, Bool.and_eq_true, decide_eq_true_eq] at h
    obtain (⟨-, h⟩ | ⟨-, h⟩) | ⟨-, h⟩ := h
    all_goals exact Nat.lt_of_le_of_lt (Text.toNat_le_toNat h) (by decide)
  exact Text.forall_ascii (P := fun c => isHexDigit c = true → inHostName c = true)
    (by decide +kernel) hbelow h

/-- **The characters of a host** do not end it: none is taken for the end of the user
information, of the authority or of the host itself. -/
theorem IsHost.plain {host : List Char} (h : IsHost host) :
    ∀ c ∈ host, inAuthority c = true ∧ c ≠ '@' ∧ c ≠ '%' := by
  have hname {c : Char} (hc : inHostName c = true) : inAuthority c = true ∧ c ≠ '@' ∧ c ≠ '%' :=
    have hc := of_inHostName hc
    ⟨(of_inUserInfo hc.1).1, hc.2.1, hc.2.2.2⟩
  cases h with
  | name _ hchars => exact fun c hc => hname (hchars c hc)
  | address haddress hzone =>
    refine List.forall_mem_cons.2 ⟨by decide, List.forall_mem_append.2 ⟨fun c hc => ?_,
      List.forall_mem_singleton.2 (by decide)⟩⟩
    obtain hhex | rfl | rfl := isHexDigit_of_isIPv6 haddress hzone c hc
    · exact hname (inHostName_of_isHexDigit hhex)
    all_goals decide

/-! ### Small letters -/

theorem isScheme_map_toLower (scheme : List Char) :
    isScheme (scheme.map Char.toLower) = isScheme scheme := by
  cases scheme with
  | nil => rfl
  | cons first rest =>
    have hletter : isLetter first.toLower = isLetter first :=
      Text.forall_toLower (P := fun c d => isLetter d = isLetter c) (fun _ => rfl)
        (by decide +kernel) first
    have hrest : inScheme ∘ Char.toLower = inScheme := funext fun c =>
      Text.forall_toLower (P := fun c d => inScheme d = inScheme c) (fun _ => rfl)
        (by decide +kernel) c
    rw [List.map_cons, isScheme, List.all_map, hletter, hrest, isScheme]

theorem IsHost.map_toLower {host : List Char} (h : IsHost host) : IsHost (host.map Char.toLower) := by
  cases h with
  | name hne hchars =>
    refine .name (by rwa [ne_eq, List.map_eq_nil_iff]) (List.forall_mem_map.2 fun c hc => ?_)
    have hlower : inHostName c.toLower = inHostName c :=
      Text.forall_toLower (P := fun c d => inHostName d = inHostName c) (fun _ => rfl)
        (by decide +kernel) c
    rw [hlower, hchars c hc]
  | @address address haddress hzone =>
    rw [List.map_cons, List.map_append]
    refine .address ?_ ?_
    · rwa [isIPv6_map_toLower hzone]
    · rwa [← List.contains_iff_mem, contains_map_toLower (by decide), List.contains_iff_mem]

/-- A number that is a port is written as one. -/
theorem decimalValue_toString (n : Nat) : decimalValue (toString n).toList = n := by
  have hstep : (fun (k : Nat) (c : Char) => k * 10 + (c.toNat - '0'.toNat)) =
      fun k c => 10 * k + (c.toNat - '0'.toNat) := by
    funext k c
    rw [Nat.mul_comm]
  rw [decimalValue, hstep, ← Nat.ofDigitChars_eq_foldl]
  exact (congrArg _ (Nat.toList_repr)).trans Nat.ofDigitChars_ten_toDigits

theorem isPort_toString {n : Nat} (h : n ≤ 65535) : IsPort (toString n).toList where
  allDigits c hc := by
    have hdigit : c.isDigit = true :=
      Nat.isDigit_of_mem_toDigits (by decide) (by decide) (Nat.toList_repr ▸ hc)
    exact hdigit
  short := by
    have hlength : (Nat.toDigits 10 n).length ≤ 5 :=
      (Nat.length_toDigits_le_iff (by decide) (by decide)).2 (by omega)
    exact Nat.le_trans (Nat.toList_repr ▸ hlength) (by decide)
  inRange := by rwa [decimalValue_toString]

/-! ## Ports -/

/-- What is wrong with a text that may not stand for a port. -/
inductive IsPortFault (text : List Char) : Fault → Prop
  | notDigits {c : Char} : c ∈ text → isDigit c = false → IsPortFault text (.port text)
  | tooLong : 4300 < text.length → IsPortFault text (.portLength text.length)
  | outOfRange : 65535 < decimalValue text → IsPortFault text .portRange

theorem IsPortFault.not_isPort {text : List Char} {f : Fault} (h : IsPortFault text f) :
    ¬ IsPort text := by
  rintro ⟨hdigits, hshort, hrange⟩
  cases h with
  | notDigits hmem hother => cases (hdigits _ hmem).symm.trans hother
  | tooLong hlong => exact Nat.not_lt.2 hshort hlong
  | outOfRange hlarge => exact Nat.not_lt.2 hrange hlarge

/-- The text that stands for the port. -/
def Parts.portText (p : Parts) : List Char := (HostAndPort.ofAuthority p.authority).port

/-- **What may stand for a port is read as one**: as none if it is empty, and else as its number.
With any other text there is a fault. -/
theorem Parts.port_cases (p : Parts) :
    (IsPort p.portText ∧
      p.port = .ok (if p.portText = [] then none else some (decimalValue p.portText))) ∨
      ∃ f, IsPortFault p.portText f ∧ p.port = .error f := by
  rw [port, portText]
  generalize (HostAndPort.ofAuthority p.authority).port = text
  dsimp only
  split
  · rename_i hempty
    obtain rfl := List.isEmpty_iff.1 hempty
    exact .inl ⟨⟨nofun, by decide, by decide⟩, rfl⟩
  rename_i hempty
  rw [List.isEmpty_iff] at hempty
  split
  · rename_i hother
    simp only [Bool.not_eq_true', List.all_eq_false, Bool.not_eq_true] at hother
    obtain ⟨c, hc, hother⟩ := hother
    exact .inr ⟨_, .notDigits hc hother, rfl⟩
  rename_i hdigits
  rw [Bool.not_eq_true', Bool.not_eq_false, List.all_eq_true] at hdigits
  split
  · rename_i hlong
    exact .inr ⟨_, .tooLong hlong, rfl⟩
  rename_i hshort
  split
  · rename_i hrange
    exact .inl ⟨⟨hdigits, Nat.not_lt.1 hshort, hrange⟩, rfl⟩
  · rename_i hlarge
    exact .inr ⟨_, .outOfRange (Nat.not_le.1 hlarge), rfl⟩

/-! ## Reading -/

theorem cut_append {separator : Char} {before : List Char} (h : separator ∉ before)
    (after : List Char) : cut separator (before ++ separator :: after) = (before, after) := by
  rw [cut, Text.splitFirst?_append h, Option.getD_some]

theorem cut_of_notMem {separator : Char} {cs : List Char} (h : separator ∉ cs) :
    cut separator cs = (cs, []) := by
  rw [cut, Text.splitFirst?_of_notMem h, Option.getD_none]

/-- The port behind a host that holds no colon, or behind its closing bracket. -/
theorem cut_portText {before portText digits : List Char} (hbefore : ':' ∉ before)
    (hport : (portText = [] ∧ digits = []) ∨ portText = ':' :: digits) :
    cut ':' (before ++ portText) = (before, digits) := by
  obtain ⟨rfl, rfl⟩ | rfl := hport
  · rw [List.append_nil, cut_of_notMem hbefore]
  · exact cut_append hbefore digits

/-- An address without a zone may stand in brackets. -/
theorem checkBracketed_eq_ok {address : List Char} (h : isIPv6 address = true)
    (hzone : '%' ∉ address) : checkBracketed address = .ok () := by
  have hfuture : address.head? ≠ some 'v' := fun hhead =>
    absurd (isHexDigit_of_isIPv6 h hzone 'v' (List.mem_of_head? hhead)) (by decide)
  rw [checkBracketed, if_neg hfuture, isIPv4_eq_false_of_colon_mem (colon_mem_of_isIPv6 h hzone), h]
  rfl

section Host

variable {host portText digits authority : List Char}
  (hport : (portText = [] ∧ digits = []) ∨ portText = ':' :: digits)
  (hrest : withoutUser authority = host ++ portText)
  (hbare : '[' ∉ portText)
  (hopen : '[' ∈ authority ↔ '[' ∈ host) (hclose : ']' ∈ authority ↔ ']' ∈ host)

include hport hrest hbare hopen hclose

/-- **An authority is read as its host and its port**: it passes the check of its brackets, and
its host is ASCII without a zone, shown with its brackets again. -/
theorem IsHost.exists_ofAuthority_eq (h : IsHost host) :
    ∃ bare, bare ≠ [] ∧ (∀ c ∈ bare, c.toNat < 128 ∧ c ≠ '%') ∧
      checkBrackets authority = .ok () ∧ HostAndPort.ofAuthority authority = ⟨bare, digits⟩ ∧
      showHost (bare.map Char.toLower) = host.map Char.toLower := by
  have hplain := h.plain
  have hascii : ∀ c ∈ host, c.toNat < 128 := fun c hc => by
    have hc := (hplain c hc).1
    simp only [inAuthority, Bool.and_eq_true, decide_eq_true_eq] at hc
    exact hc.1.1
  cases h with
  | name hne hchars =>
    have hnot {c : Char} (hmem : c ∈ host) : c ≠ '[' ∧ c ≠ ']' ∧ c ≠ ':' :=
      have hc := of_inHostName (hchars c hmem)
      ⟨(of_inUserInfo hc.1).2.1, (of_inUserInfo hc.1).2.2, hc.2.2.1⟩
    have hopen' : authority.contains '[' = false := by
      rw [← Bool.not_eq_true, List.contains_iff_mem, hopen]
      exact fun h => (hnot h).1 rfl
    have hclose' : authority.contains ']' = false := by
      rw [← Bool.not_eq_true, List.contains_iff_mem, hclose]
      exact fun h => (hnot h).2.1 rfl
    -- Without brackets the host ends at the first colon, and it holds none.
    have hcolon : ':' ∉ host := fun h => (hnot h).2.2 rfl
    have hsplit : Text.splitFirst? '[' (host ++ portText) = none := by
      refine Text.splitFirst?_of_notMem ?_
      rw [List.mem_append, not_or]
      exact ⟨fun h => (hnot h).1 rfl, hbare⟩
    refine ⟨host, hne, fun c hc => ⟨hascii c hc, (hplain c hc).2.2⟩, ?_, ?_, ?_⟩
    · rw [checkBrackets, hopen', hclose']
      rfl
    · simp only [HostAndPort.ofAuthority, hrest, hsplit, cut_portText hcolon hport]
    · have hnone : (host.map Char.toLower).contains ':' = false := by
        rw [contains_map_toLower (by decide), ← Bool.not_eq_true, List.contains_iff_mem]
        exact hcolon
      rw [showHost, hnone]
      rfl
  | @address address haddress hzone =>
    -- In brackets it ends at the closing one, and its colons are its own.
    have hbracket : ']' ∉ address := fun h =>
      absurd (isHexDigit_of_isIPv6 haddress hzone _ h) (by decide)
    have hopen' : authority.contains '[' = true :=
      List.contains_iff_mem.2 (hopen.2 List.mem_cons_self)
    have hclose' : authority.contains ']' = true :=
      List.contains_iff_mem.2 (hclose.2 (List.mem_cons_of_mem _ (List.mem_append_right _
        List.mem_cons_self)))
    have hsplit : Text.splitFirst? '[' ('[' :: (address ++ [']']) ++ portText) =
        some ([], address ++ ']' :: portText) := by
      rw [List.cons_append, List.append_assoc, List.singleton_append]
      exact Text.splitFirst?_append (List.not_mem_nil) _
    have hcut : cut ':' portText = ([], digits) := cut_portText (List.not_mem_nil) hport
    have hbehind : (portText.isEmpty || decide (portText.head? = some ':')) = true := by
      obtain ⟨rfl, -⟩ | rfl := hport <;> rfl
    refine ⟨address, ?_, fun c hc => ?_, ?_, ?_, ?_⟩
    · exact List.ne_nil_of_mem (colon_mem_of_isIPv6 haddress hzone)
    · exact ⟨hascii c (List.mem_cons_of_mem _ (List.mem_append_left _ hc)), fun h => hzone (h ▸ hc)⟩
    · simp only [checkBrackets, hopen', hclose', hrest, hsplit, cut_append hbracket, hbehind,
        checkBracketed_eq_ok haddress hzone]
      rfl
    · simp only [HostAndPort.ofAuthority, hrest, hsplit, cut_append hbracket, hcut]
    · have hcolon : address.contains ':' = true :=
        List.contains_iff_mem.2 (colon_mem_of_isIPv6 haddress hzone)
      rw [showHost, contains_map_toLower (by decide), hcolon, if_pos rfl, List.map_cons,
        List.map_append]
      rfl

end Host

namespace Spelling

variable (e : Spelling)

/-- The port is what stands behind its colon. -/
theorem portText_cases : (e.portText = [] ∧ e.digits = []) ∨ e.portText = ':' :: e.digits := by
  rw [portText, digits]
  cases e.port with
  | none => exact .inl ⟨rfl, rfl⟩
  | some digits => exact .inr rfl

theorem isPort_digits : IsPort e.digits := by
  rw [digits]
  cases hport : e.port with
  | none => exact ⟨List.forall_mem_nil _, Nat.zero_le _, Nat.zero_le _⟩
  | some digits => exact e.isPort_port digits hport

theorem plain_portText :
    ∀ c ∈ e.portText, inAuthority c = true ∧ c ≠ '@' ∧ c ≠ '[' ∧ c ≠ ']' := by
  obtain ⟨hnil, -⟩ | hport := e.portText_cases
  · rw [hnil]
    exact List.forall_mem_nil _
  · rw [hport]
    refine List.forall_mem_cons.2 ⟨by decide, fun c hc => ?_⟩
    have hhex : isHexDigit c = true := by
      rw [isHexDigit, e.isPort_digits.allDigits c hc, Bool.true_or, Bool.true_or]
    have hname := of_inHostName (inHostName_of_isHexDigit hhex)
    exact ⟨(of_inUserInfo hname.1).1, hname.2.1, (of_inUserInfo hname.1).2⟩

theorem plain_userText : ∀ c ∈ e.userText, inUserInfo c = true := by
  rw [userText]
  cases huser : e.user with
  | none => exact List.forall_mem_nil _
  | some user =>
    exact List.forall_mem_append.2 ⟨e.inUserInfo_user user huser,
      List.forall_mem_singleton.2 (by decide)⟩

theorem inAuthority_authority : ∀ c ∈ e.authority, inAuthority c = true :=
  List.forall_mem_append.2 ⟨fun c hc => (of_inUserInfo (e.plain_userText c hc)).1,
    List.forall_mem_append.2 ⟨fun c hc => (e.isHost_host.plain c hc).1,
      fun c hc => (e.plain_portText c hc).1⟩⟩

theorem isPlainAuthority_authority : IsPlainAuthority e.authority := by
  intro c hc
  have h := e.inAuthority_authority c hc
  simp only [inAuthority, Bool.and_eq_true, Bool.not_eq_true'] at h
  exact ⟨h.1.2, h.2⟩

/-- No ASCII character hides another. -/
theorem checkHidden_authority : checkHidden e.authority = .ok () := by
  have hhiders : ∀ n ∈ delimiterHiders, 128 ≤ n := by decide
  have hnone : (e.authority.any fun c => delimiterHiders.contains c.toNat) = false := by
    rw [List.any_eq_false]
    intro c hc hhidden
    have h := e.inAuthority_authority c hc
    simp only [inAuthority, Bool.and_eq_true, decide_eq_true_eq] at h
    exact absurd h.1.1 (Nat.not_lt.2 (hhiders _ (List.contains_iff_mem.1 hhidden)))
  rw [checkHidden, hnone]
  rfl

/-- The user information ends at the last of the characters that end it. -/
theorem withoutUser_authority : withoutUser e.authority = e.host ++ e.portText := by
  have hrest : '@' ∉ e.host ++ e.portText := by
    rw [List.mem_append, not_or]
    exact ⟨fun h => (e.isHost_host.plain _ h).2.1 rfl, fun h => (e.plain_portText _ h).2.1 rfl⟩
  rw [withoutUser, authority, userText]
  cases e.user with
  | none =>
    rw [Option.map_none, Option.getD_none, List.nil_append, Text.splitLast?_of_notMem hrest]
  | some user =>
    have hsplit : Text.splitLast? '@' (user ++ ['@'] ++ (e.host ++ e.portText)) =
        some (user, e.host ++ e.portText) :=
      Text.splitLast?_eq_some_iff.2 ⟨by rw [List.append_assoc, List.singleton_append], hrest⟩
    rw [Option.map_some, Option.getD_some, hsplit]

/-- A character that user information may not hold and that is not in the port stands in the
host, if anywhere. -/
theorem mem_authority_iff {c : Char} (huser : inUserInfo c = false) (hport : c ∉ e.portText) :
    c ∈ e.authority ↔ c ∈ e.host := by
  have hnot : c ∉ e.userText := fun hc => by
    have h := e.plain_userText c hc
    rw [huser] at h
    cases h
  simp only [authority, List.mem_append, hnot, hport, false_or, or_false]

/-- The host and the port of the authority. -/
theorem exists_ofAuthority_eq : ∃ bare, bare ≠ [] ∧ (∀ c ∈ bare, c.toNat < 128 ∧ c ≠ '%') ∧
    checkBrackets e.authority = .ok () ∧
    HostAndPort.ofAuthority e.authority = ⟨bare, e.digits⟩ ∧
    showHost (bare.map Char.toLower) = e.lowerHost := by
  have hopen : '[' ∉ e.portText := fun h => (e.plain_portText _ h).2.2.1 rfl
  have hclose : ']' ∉ e.portText := fun h => (e.plain_portText _ h).2.2.2 rfl
  exact e.isHost_host.exists_ofAuthority_eq e.portText_cases e.withoutUser_authority hopen
    (e.mem_authority_iff (by decide) hopen) (e.mem_authority_iff (by decide) hclose)

/-- **The address is read as it is spelled.** -/
theorem exists_ofText_eq : ∃ bare, bare ≠ [] ∧
    Parts.ofText e.text.toList = .ok ⟨e.lowerScheme, e.authority⟩ ∧
    Parts.host ⟨e.lowerScheme, e.authority⟩ = bare ∧ showHost bare = e.lowerHost := by
  obtain ⟨bare, hne, hplain, hbrackets, hread, hshown⟩ := e.exists_ofAuthority_eq
  refine ⟨bare.map Char.toLower, by rwa [ne_eq, List.map_eq_nil_iff], ?_, ?_, hshown⟩
  · rw [text, String.toList_ofList, Parts.ofText_written e.isScheme_scheme
      e.isPlainAuthority_authority e.followsAuthority_tail, hbrackets, e.checkHidden_authority]
    rfl
  · have hzone : ∀ c ∈ bare, decide (c ≠ '%') = true := fun c hc => decide_eq_true (hplain c hc).2
    rw [Parts.host, hread, List.takeWhile_eq_self_iff.2 hzone, List.dropWhile_eq_nil_iff.2 hzone,
      Text.lower_eq_map_toLower fun c hc => (hplain c hc).1, List.append_nil]

/-- The port that is read is the number of its digits. -/
theorem port_eq : Parts.port ⟨e.lowerScheme, e.authority⟩ =
    .ok (if e.digits = [] then none else some (decimalValue e.digits)) := by
  obtain ⟨_, -, -, -, hread, -⟩ := e.exists_ofAuthority_eq
  have htext : Parts.portText ⟨e.lowerScheme, e.authority⟩ = e.digits := by
    rw [Parts.portText, hread]
  obtain ⟨-, hport⟩ | ⟨f, hfault, -⟩ := Parts.port_cases ⟨e.lowerScheme, e.authority⟩
  · rw [hport, htext]
  · exact absurd e.isPort_digits (htext ▸ hfault.not_isPort)

theorem showPort_eq :
    showPort e.lowerScheme (if e.digits = [] then none else some (decimalValue e.digits)) =
      (e.normalPort.map (':' :: ·)).getD [] := by
  rw [normalPort]
  by_cases hempty : e.digits = []
  · rw [if_pos hempty, if_pos (.inl hempty)]
    rfl
  · simp only [showPort, hempty, if_false, false_or]
    split <;> rfl

/-- **The origin of an address is its normal form**, however it is spelled. -/
theorem origin_text : origin e.text = .ok e.normalForm := by
  obtain ⟨bare, -, hparts, hhost, hshown⟩ := e.exists_ofText_eq
  rw [origin, originChars, hparts]
  simp only [bind, Except.bind, e.port_eq, hhost, hshown, e.showPort_eq]
  rfl

/-! ## The normal form as a spelling -/

theorem normalPort_eq : (e.normalPort.map (':' :: ·)).getD [] =
    showPort e.lowerScheme e.effectivePort := by
  rw [← showPort_eq, effectivePort]
  by_cases hempty : e.digits = []
  · rw [if_pos hempty, if_pos hempty]
    cases hdefault : defaultPort? e.lowerScheme with
    | none => rfl
    | some n => simp only [showPort, hdefault, if_true]
  · rw [if_neg hempty, if_neg hempty]

/-- What agrees has one normal form. -/
theorem Agrees.normalForm_eq {e e' : Spelling} (h : e.Agrees e') : e.normalForm = e'.normalForm := by
  rw [normalForm, normalForm, normalPort_eq, normalPort_eq, h.scheme, h.host, h.port]

theorem inUserInfo_none : ∀ name ∈ (none : Option (List Char)), ∀ c ∈ name, inUserInfo c = true :=
  nofun

/-- The normal form, spelled as it stands. -/
def normal : Spelling where
  scheme := e.lowerScheme
  user := none
  host := e.lowerHost
  port := e.normalPort
  tail := []
  isScheme_scheme := (isScheme_map_toLower _).trans e.isScheme_scheme
  inUserInfo_user := inUserInfo_none
  isHost_host := e.isHost_host.map_toLower
  isPort_port := by
    intro digits hdigits
    rw [normalPort] at hdigits
    split at hdigits
    · cases hdigits
    · cases hdigits
      exact isPort_toString e.isPort_digits.inRange
  followsAuthority_tail := nofun

theorem text_normal : e.normal.text = e.normalForm := by
  have hscheme : e.normal.scheme = e.lowerScheme := rfl
  have hauthority : e.normal.authority = e.lowerHost ++ (e.normalPort.map (':' :: ·)).getD [] := rfl
  have htail : e.normal.tail = [] := rfl
  rw [text, hscheme, hauthority, htail, written, normalForm, List.append_nil, List.append_assoc,
    List.append_assoc]
  rfl

theorem normalPort_normal : e.normal.normalPort = e.normalPort := by
  have hscheme : e.normal.lowerScheme = e.lowerScheme := Text.map_toLower_map_toLower _
  have hdigits : e.normal.digits = e.normalPort.getD [] := rfl
  rw [normalPort, hscheme, hdigits]
  by_cases hgone : e.digits = [] ∨ defaultPort? e.lowerScheme = some (decimalValue e.digits)
  · rw [normalPort, if_pos hgone]
    rfl
  · have hne : (toString (decimalValue e.digits)).toList ≠ [] := by
      have hdigits : (toString (decimalValue e.digits)).toList =
          Nat.toDigits 10 (decimalValue e.digits) := Nat.toList_repr
      rw [hdigits]
      exact Nat.toDigits_ne_nil
    rw [normalPort, if_neg hgone, Option.getD_some, decimalValue_toString, if_neg]
    rw [not_or] at hgone ⊢
    exact ⟨hne, hgone.2⟩

theorem normalForm_normal : e.normal.normalForm = e.normalForm := by
  have hscheme : e.normal.lowerScheme = e.lowerScheme := Text.map_toLower_map_toLower _
  have hhost : e.normal.lowerHost = e.lowerHost := Text.map_toLower_map_toLower _
  rw [normalForm, hscheme, hhost, normalPort_normal, normalForm]

end Spelling

end Url

/-- **The origin is a normal form.** However an address is spelled, its origin is its scheme and
its host in small letters, and its port where the scheme does not have that anyway. So addresses
that agree in these have one origin, and an origin is its own. -/
theorem Notification.origin_eq_normalForm (e : Url.Spelling) {n : Notification}
    (hn : n.endpoint = e.text) :
    n.origin = .ok e.normalForm ∧
      (∀ (e' : Url.Spelling) (n' : Notification), n'.endpoint = e'.text → e.Agrees e' →
        n'.origin = n.origin) ∧
      ∀ n' : Notification, n'.endpoint = e.normalForm → n'.origin = .ok e.normalForm := by
  have horigin (e : Url.Spelling) (n : Notification) (hn : n.endpoint = e.text) :
      n.origin = .ok e.normalForm := by rw [origin, hn, e.origin_text]
  refine ⟨horigin e n hn, fun e' n' hn' hagrees => ?_, fun n' hn' => ?_⟩
  · rw [horigin e n hn, horigin e' n' hn', hagrees.normalForm_eq]
  · rw [horigin e.normal n' (by rw [hn', e.text_normal]), e.normalForm_normal]

/-- An address in capital letters, with user information, zeros in front of a port that goes
without saying, and a path. -/
def Url.Spelling.loud : Url.Spelling where
  scheme := "HTTPS".toList
  user := some "u:p@q".toList
  host := "[2001:DB8::1]".toList
  port := some "0443".toList
  tail := '/' :: "send?x#y".toList
  isScheme_scheme := by decide +kernel
  inUserInfo_user := by
    rintro _ ⟨⟩
    exact List.all_eq_true.1 (by decide +kernel)
  isHost_host := @Url.IsHost.address "2001:DB8::1".toList (by decide +kernel) (by decide +kernel)
  isPort_port := by
    rintro _ ⟨⟩
    exact ⟨List.all_eq_true.1 (by decide +kernel), by decide +kernel, by decide +kernel⟩
  followsAuthority_tail := Url.followsAuthority_cons rfl _

/-- The address in capital letters, what it has in common with its normal form, and that form. -/
theorem Notification.origin_eq_normalForm_loud :
    let loud : Notification :=
      ⟨⟨"HTTPS://u:p@q@[2001:DB8::1]:0443/send?x#y", .p256 P256.generator, .zeros⟩, none, 0, none, none⟩
    let quiet : Notification :=
      ⟨⟨"https://[2001:db8::1]", .p256 P256.generator, .zeros⟩, none, 0, none, none⟩
    loud.origin = .ok "https://[2001:db8::1]" ∧ quiet.origin = loud.origin ∧
      quiet.origin = .ok "https://[2001:db8::1]" := by
  intro loud quiet
  have htext : loud.endpoint = Url.Spelling.loud.text := by decide +kernel
  have hform : Url.Spelling.loud.normalForm = "https://[2001:db8::1]" := by decide +kernel
  have hagrees : Url.Spelling.loud.Agrees Url.Spelling.loud.normal :=
    ⟨by decide +kernel, by decide +kernel, by decide +kernel⟩
  obtain ⟨horigin, hsame, hnormal⟩ := origin_eq_normalForm Url.Spelling.loud htext
  refine ⟨?_, hsame Url.Spelling.loud.normal quiet ?_ hagrees, ?_⟩
  · rw [horigin, hform]
  · rw [Url.Spelling.text_normal, hform]
    rfl
  · rw [hnormal quiet hform.symm, hform]

end WebPush
