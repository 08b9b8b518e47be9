/-
# What the options of an authorized key mean

The options text is a list of items with commas between them, and each item is empty, the
name of an option, or an option with a quoted value.  `Spells` and `Denotes` say which text
stands for which items, without regard to how it is read; a port is a number in digits.  The
parser accepts exactly such texts, with two exceptions that are due to `m_str_to_uint`: it
takes white space and a sign in front of a port, and may refuse the port 0.  The options it
returns are those of the items, except that a port number that is spelled as the wildcard's
code permits every port.
-/

import Dropbear.Auth.OptionsText

namespace Dropbear.Auth

open Program

/-! ## The grammar -/

/-- A number in digits. -/
inductive Decimal : Bytes → Nat → Prop where
  | digits {digits : Bytes} (more : digits ≠ []) (numeric : ∀ c ∈ digits, isDigit c) :
      Decimal digits (ofDigits digits)

/-- The signs that `strtoul` knows. -/
inductive Sign : Bytes → Bool → Prop where
  | none : Sign [] false
  | plus : Sign [43] false
  | minus : Sign [45] true

/-- A number as `strtoul` reads it: white space, a sign and digits.  A negative number is
negated in the unsigned type. -/
inductive Numeral : Bytes → Nat → Prop where
  | mk {spaces sign digits : Bytes} {negative : Bool} (blank : ∀ c ∈ spaces, isSpace c)
      (isSign : Sign sign negative) (more : digits ≠ []) (numeric : ∀ c ∈ digits, isDigit c)
      (fits : negative → ofDigits digits ≤ ulongMax) :
      Numeral (spaces ++ (sign ++ digits))
        (if negative then (ulongMax + 1 - ofDigits digits) % (ulongMax + 1) else ofDigits digits)

inductive Port where
  | any
  | number (n : Nat)
  deriving DecidableEq, Repr

/-- How a port is stored. -/
def Port.code : Port → Nat
  | .any => pubkeyOptionsAnyPort
  | .number n => n

section

variable (Number : Bytes → Nat → Prop)

inductive PortText : Bytes → Port → Prop where
  | any : PortText (ascii "*") .any
  | number {text : Bytes} {n : Nat} (isNumber : Number text n) (fits : n ≤ uintMax) :
      PortText text (.number n)

/-- A host and a port behind the last colon; a host with colons stands in brackets. -/
inductive HostPort : Bytes → Bytes → Port → Prop where
  | plain {host text : Bytes} {port : Port} (some : host ≠ [])
      (noBracket : host.head? ≠ Option.some 91) (isPort : PortText Number text port) :
      HostPort (host ++ 58 :: text) host port
  | bracketed {host text : Bytes} {port : Port} (some : host ≠ []) (inside : 93 ∉ host)
      (isPort : PortText Number text port) : HostPort (91 :: (host ++ 93 :: 58 :: text)) host port

/-- A command in which every double quote, and no other, follows a backslash that is not
itself escaped. -/
inductive Escaped : Bytes → Prop where
  | nil : Escaped []
  | plain {c : UInt8} {rest : Bytes} (notQuote : c ≠ 34) (notBackslash : c ≠ 92)
      (more : Escaped rest) : Escaped (c :: rest)
  | escape {c : UInt8} {rest : Bytes} (more : Escaped rest) : Escaped (92 :: c :: rest)

inductive Item where
  | nothing
  | flag (name : FlagName)
  | command (value : Bytes)
  | permitopen (host : Bytes) (port : Port)
  | permitlisten (port : Nat)
  deriving DecidableEq

/-- The text of one item. -/
inductive Spells : Bytes → Item → Prop where
  | nothing : Spells [] .nothing
  | flag {text : Bytes} {name : FlagName} (same : sameIgnoringCase text name.text) :
      Spells text (.flag name)
  | command {keyword value : Bytes} (same : sameIgnoringCase keyword (ascii "command=\""))
      (escaped : Escaped value) : Spells (keyword ++ (value ++ [34])) (.command value)
  | permitopen {keyword value host : Bytes} {port : Port}
      (same : sameIgnoringCase keyword (ascii "permitopen=\"")) (plain : 34 ∉ value)
      (isHostPort : HostPort Number (cString value) host port) :
      Spells (keyword ++ (value ++ [34])) (.permitopen host port)
  | permitlisten {keyword value : Bytes} {port : Nat}
      (same : sameIgnoringCase keyword (ascii "permitlisten=\"")) (plain : 34 ∉ value)
      (isNumber : Number (cString value) port) (fits : port ≤ uintMax) :
      Spells (keyword ++ (value ++ [34])) (.permitlisten port)

/-- The items of a text, with commas between them. -/
def Denotes (text : Bytes) (items : List Item) : Prop :=
  ∃ texts, texts ≠ [] ∧ text = [44].intercalate texts ∧ List.Forall₂ (Spells Number) texts items

end

def Item.isCommand : Item → Bool
  | .command _ => true
  | _ => false

/-- There is at most one command, and the ports are decimal. -/
def WellFormed (text : Bytes) : Prop :=
  ∃ items, Denotes Decimal text items ∧ items.countP Item.isCommand ≤ 1

/-- The options say what the items say. -/
structure Means (features : Features) (items : List Item) (options : PubKeyOptions) : Prop where
  noPortForwarding : options.noPortForwardingFlag =
    (items.contains (.flag .noPortForwarding) || items.contains (.flag .restrict))
  noAgentForwarding : options.noAgentForwardingFlag = (features.svrAgentfwd &&
    (items.contains (.flag .noAgentForwarding) || items.contains (.flag .restrict)))
  noX11Forwarding : options.noX11ForwardingFlag = (features.x11fwd &&
    (items.contains (.flag .noX11Forwarding) || items.contains (.flag .restrict)))
  noPty : options.noPtyFlag = (items.contains (.flag .noPty) || items.contains (.flag .restrict))
  noTouchRequired : options.noTouchRequiredFlag =
    (features.sk && items.contains (.flag .noTouchRequired))
  verifyRequired : options.verifyRequiredFlag =
    (features.sk && items.contains (.flag .verifyRequired))
  forcedCommand : ∀ value, options.forcedCommand = some value ↔ .command value ∈ items
  localTcpfwd : ∀ host port, port ≤ uintMax →
    (svrPubkeyAllowsLocalTcpfwd (some options) host port ↔
      (∀ host' port', .permitopen host' port' ∉ items) ∨ .permitopen host .any ∈ items ∨
        .permitopen host (.number port) ∈ items)
  remoteTcpfwd : ∀ port, port ≤ uintMax →
    (svrPubkeyAllowsRemoteTcpfwd (some options) port ↔
      (∀ port', .permitlisten port' ∉ items) ∨ .permitlisten port ∈ items)

/-! ## Numbers -/

theorem isSpace_of_isDigit {c : UInt8} (digit : isDigit c) : isSpace c = false := by
  have bounds := of_decide_eq_true digit
  apply decide_eq_false
  rintro (rfl | ⟨_, small⟩)
  · exact absurd bounds.1 (by decide)
  · exact absurd (UInt8.le_trans bounds.1 small) (by decide)

theorem exists_sign_of_splitSign {rest body : Bytes} {negative : Bool}
    (split : splitSign rest = (negative, body)) : ∃ sign, Sign sign negative ∧ rest = sign ++ body := by
  rw [splitSign.eq_def] at split
  split at split <;> cases split
  · exact ⟨_, .minus, rfl⟩
  · exact ⟨_, .plus, rfl⟩
  · exact ⟨_, .none, rfl⟩

/-- A sign in front of digits is split off, and is not white space. -/
theorem Sign.splits {sign digits : Bytes} {negative : Bool} (isSign : Sign sign negative)
    (more : digits ≠ []) (numeric : ∀ c ∈ digits, isDigit c) :
    splitSign (sign ++ digits) = (negative, digits) ∧
      (sign ++ digits).dropWhile isSpace = sign ++ digits := by
  cases isSign with
  | plus => exact ⟨rfl, rfl⟩
  | minus => exact ⟨rfl, rfl⟩
  | none =>
    obtain ⟨c, rest, rfl⟩ := List.exists_cons_of_ne_nil more
    have digit := numeric c (List.mem_cons_self ..)
    refine ⟨?_, List.dropWhile_cons_of_neg (by rw [isSpace_of_isDigit digit]; nofun)⟩
    rw [List.nil_append, splitSign.eq_def]
    split
    case _ same =>
      cases same
      exact absurd digit (by decide)
    case _ same =>
      cases same
      exact absurd digit (by decide)
    case _ => rfl

variable {text : Bytes} {n : Nat}

theorem mStrToUint_of_numeral (einval : Bool) (numeral : Numeral text n) :
    mStrToUint einval text = if (n = 0 ∧ einval) ∨ n > uintMax then none else some n := by
  cases numeral with
  | @mk spaces sign digits negative blank isSign more numeric fits =>
    obtain ⟨split, starts⟩ := isSign.splits more numeric
    rw [mStrToUint, strtoul, List.dropWhile_append_of_pos blank, starts, split]
    dsimp only
    rw [List.takeWhile_eq_self_iff.2 numeric, List.dropWhile_eq_nil_iff.2 numeric, if_neg more]
    by_cases large : ofDigits digits > ulongMax
    · -- a number that is too large is one that is refused
      have positive : negative = false := by
        rw [← Bool.not_eq_true]
        exact fun negated => absurd (fits negated) (Nat.not_le.2 large)
      subst positive
      have refused : ofDigits digits > uintMax := Nat.lt_trans (by decide) large
      rw [if_pos large]
      exact (if_pos (.inr refused)).symm
    · rw [if_neg large]
      rfl

/-- A number that fits is what the whole string spells. -/
theorem numeral_of_strtoul (read : strtoul text = some (n, [])) (small : n ≤ uintMax) :
    Numeral text n := by
  have blank : ∀ c ∈ text.takeWhile isSpace, isSpace c := fun c there => List.mem_takeWhile_imp there
  have whole : text.takeWhile isSpace ++ text.dropWhile isSpace = text := List.takeWhile_append_dropWhile
  rw [strtoul] at read
  generalize text.takeWhile isSpace = spaces at blank whole
  generalize text.dropWhile isSpace = rest at read whole
  generalize split : splitSign rest = signed at read
  obtain ⟨negative, body⟩ := signed
  dsimp only at read
  by_cases none : body.takeWhile isDigit = []
  · rw [if_pos none] at read
    cases read
  rw [if_neg none] at read
  by_cases big : ofDigits (body.takeWhile isDigit) > ulongMax
  · rw [if_pos big] at read
    rw [← (Prod.mk.inj (Option.some_inj.1 read)).1] at small
    exact absurd small (by decide)
  rw [if_neg big] at read
  obtain ⟨value, last⟩ := Prod.mk.inj (Option.some_inj.1 read)
  have numeric : ∀ c ∈ body, isDigit c := List.dropWhile_eq_nil_iff.1 last
  rw [List.takeWhile_eq_self_iff.2 numeric] at none big value
  rw [← whole, ← value]
  obtain ⟨sign, isSign, rfl⟩ := exists_sign_of_splitSign split
  exact .mk blank isSign none numeric fun _ => Nat.le_of_not_lt big

variable {einval : Bool}

theorem numeral_of_mStrToUint (read : mStrToUint einval text = some n) :
    Numeral text n ∧ n ≤ uintMax := by
  rw [mStrToUint] at read
  cases number : strtoul text with
  | none =>
    rw [number] at read
    cases read
  | some result =>
    obtain ⟨l, endp⟩ := result
    rw [number] at read
    dsimp only at read
    by_cases whole : endp = []
    · rw [if_neg (not_not_intro whole)] at read
      split at read
      · cases read
      case _ fits =>
        cases read
        subst whole
        have small : n ≤ uintMax := Nat.le_of_not_lt fun big => fits (.inr big)
        exact ⟨numeral_of_strtoul number small, small⟩
    · rw [if_pos whole] at read
      cases read

/-! ## Ports and hosts -/

theorem Numeral.ne_star (numeral : Numeral text n) : text ≠ ascii "*" := by
  have digit : ∃ c ∈ text, isDigit c := by
    cases numeral with
    | mk _ _ more numeric _ =>
      obtain ⟨c, there⟩ := List.exists_mem_of_ne_nil _ more
      exact ⟨c, List.mem_append_right _ (List.mem_append_right _ there), numeric c there⟩
  rintro rfl
  revert digit
  decide

variable {port : Port}

theorem PortText.noColon (isPort : PortText Numeral text port) :
    58 ∉ text := by
  cases isPort with
  | any => decide
  | number numeral _ =>
    cases numeral with
    | mk blank isSign _ numeric _ =>
      rw [List.mem_append, List.mem_append, not_or, not_or]
      refine ⟨fun there => absurd (blank 58 there) (by decide), ?_,
        fun there => absurd (numeric 58 there) (by decide)⟩
      cases isSign <;> decide

variable {spec host : Bytes}

theorem splitAddressPort_of_hostPort (isHostPort : HostPort Numeral spec host port) :
    ∃ text, PortText Numeral text port ∧ splitAddressPort spec = some (some host, some text) := by
  cases isHostPort with
  | @plain _ text _ some noBracket isPort =>
    refine ⟨text, isPort, ?_⟩
    rw [splitAddressPort.eq_def]
    split
    case _ addr same =>
      obtain ⟨c, rest, rfl⟩ := List.exists_cons_of_ne_nil some
      cases same
      exact absurd rfl noBracket
    case _ =>
      rw [strrchr_append host isPort.noColon]
      dsimp only
      have behind : (host ++ 58 :: text).drop (host.length + 1) = text := by
        rw [← List.drop_drop, List.drop_left]
        rfl
      rw [List.take_left, nonEmpty, if_neg some, behind]
  | @bracketed _ text _ some inside isPort =>
    refine ⟨text, isPort, ?_⟩
    have notBracket : ∀ c ∈ host, (c ≠ 93 : Bool) := by
      intro c there
      exact decide_eq_true fun same => inside (same ▸ there)
    have taken : (host ++ 93 :: 58 :: text).takeWhile (· ≠ 93) = host := by
      rw [List.takeWhile_append_of_pos notBracket]
      simp
    have dropped : (host ++ 93 :: 58 :: text).dropWhile (· ≠ 93) = 93 :: 58 :: text := by
      rw [List.dropWhile_append_of_pos notBracket]
      simp
    rw [splitAddressPort, dropped, taken]
    dsimp only
    rw [if_pos rfl, nonEmpty, if_neg some]

theorem nonEmpty_eq_some {addr : Bytes} (given : nonEmpty addr = some host) :
    addr = host ∧ host ≠ [] := by
  rw [nonEmpty] at given
  split at given
  · cases given
  case _ more =>
    cases given
    exact ⟨rfl, more⟩

theorem hostPort_of_splitAddressPort (split : splitAddressPort spec = some (some host, some text))
    (isPort : PortText Numeral text port) : HostPort Numeral spec host port := by
  rw [splitAddressPort.eq_def] at split
  split at split
  case _ addr =>
    have whole : addr.takeWhile (· ≠ 93) ++ addr.dropWhile (· ≠ 93) = addr :=
      List.takeWhile_append_dropWhile
    have inside : 93 ∉ addr.takeWhile (· ≠ 93) := fun there =>
      absurd (List.mem_takeWhile_imp there) (by decide)
    have first : ∀ c rest, addr.dropWhile (· ≠ 93) = c :: rest → c = 93 := by
      intro c rest found
      have stops := List.head?_dropWhile_not (fun c : UInt8 => decide (c ≠ 93)) addr
      rw [found] at stops
      exact not_not.1 (of_decide_eq_false stops)
    generalize addr.takeWhile (· ≠ 93) = front at split whole inside
    generalize addr.dropWhile (· ≠ 93) = back at split whole first
    split at split
    · cases split
    · cases (Prod.mk.inj (Option.some_inj.1 split)).2
    case _ c colon rest =>
      split at split
      case _ isColon =>
        obtain ⟨given, isText⟩ := Prod.mk.inj (Option.some_inj.1 split)
        cases isText
        obtain ⟨rfl, more⟩ := nonEmpty_eq_some given
        rw [← whole, first c _ rfl, isColon]
        exact .bracketed more inside isPort
      case _ => cases split
  case _ noBracket =>
    split at split
    · cases (Prod.mk.inj (Option.some_inj.1 split)).2
    case _ place found =>
      obtain ⟨front, name, rfl, _, rfl⟩ := exists_of_strrchr found
      obtain ⟨given, isText⟩ := Prod.mk.inj (Option.some_inj.1 split)
      have behind : (front ++ 58 :: name).drop (front.length + 1) = name := by
        rw [← List.drop_drop, List.drop_left]
        rfl
      rw [behind] at isText
      cases isText
      rw [List.take_left] at given
      obtain ⟨rfl, more⟩ := nonEmpty_eq_some given
      refine .plain more ?_ isPort
      intro bracket
      obtain ⟨c, rest, rfl⟩ := List.exists_cons_of_ne_nil more
      cases bracket
      exact noBracket _ rfl

/-- The entry of a 'permitopen' value, if its port is not refused. -/
theorem permitopenEntry_of_hostPort (einval : Bool)
    (isHostPort : HostPort Numeral spec host port) :
    permitopenEntry einval spec =
      if port = .number 0 ∧ einval then none else some ⟨some host, port.code⟩ := by
  obtain ⟨text, isPort, split⟩ := splitAddressPort_of_hostPort isHostPort
  rw [permitopenEntry, split]
  dsimp only
  cases isPort with
  | any =>
    rw [if_pos rfl, if_neg (fun refused => nomatch refused.1)]
    rfl
  | @number _ n numeral fits =>
    rw [if_neg numeral.ne_star, mStrToUint_of_numeral einval numeral]
    by_cases zero : n = 0 ∧ einval
    · rw [if_pos (.inl zero), if_pos ⟨congrArg Port.number zero.1, zero.2⟩]
      rfl
    · rw [if_neg (not_or.2 ⟨zero, Nat.not_lt.2 fits⟩),
        if_neg (fun refused => zero ⟨Port.number.inj refused.1, refused.2⟩)]
      rfl

theorem hostPort_of_permitopenEntry {entry : PermitTCPFwdEntry}
    (made : permitopenEntry einval spec = some entry) :
    ∃ host port, HostPort Numeral spec host port := by
  rw [permitopenEntry] at made
  split at made
  case _ host text split =>
    split at made
    case _ isStar => exact ⟨host, .any, hostPort_of_splitAddressPort split (isStar ▸ .any)⟩
    case _ =>
      obtain ⟨n, read, _⟩ := Option.map_eq_some_iff.1 made
      obtain ⟨numeral, fits⟩ := numeral_of_mStrToUint read
      exact ⟨host, .number n, hostPort_of_splitAddressPort split (.number numeral fits)⟩
  case _ => cases made

/-! ## Values -/

theorem commandLength_of_escaped {value : Bytes} (escaped : Escaped value) (more : Bytes) :
    commandLength false (value ++ 34 :: more) = some value.length := by
  induction escaped with
  | nil => rfl
  | @plain c rest notQuote notBackslash _ ih =>
    rw [List.cons_append, commandLength, if_neg (fun quote => notQuote quote.2),
      decide_eq_false notBackslash, Bool.and_false, ih]
    rfl
  | @escape c rest _ ih =>
    rw [List.cons_append, List.cons_append, commandLength, if_neg (by decide), commandLength,
      if_neg (fun quote => by cases quote.1)]
    rw [show (!(!false && decide ((92 : UInt8) = 92)) && decide (c = 92)) = false by rfl, ih]
    rfl

variable {k : Nat}

/-- In the escaped state the value goes on from a backslash. -/
theorem escaped_of_commandLength {escaped : Bool} (found : commandLength escaped text = some k) :
    ∃ more, text = text.take k ++ 34 :: more ∧
      Escaped (if escaped then 92 :: text.take k else text.take k) := by
  induction text generalizing escaped k with
  | nil => cases found
  | cons c rest ih =>
    rw [commandLength] at found
    split at found
    case _ quote =>
      cases found
      obtain ⟨notEscaped, rfl⟩ := quote
      refine ⟨rest, rfl, ?_⟩
      cases escaped with
      | false => exact .nil
      | true => cases notEscaped
    case _ notQuote =>
      obtain ⟨k', found', rfl⟩ := Option.map_eq_some_iff.1 found
      obtain ⟨more, whole, value⟩ := ih found'
      refine ⟨more, ?_, ?_⟩
      · rw [List.take_succ_cons, List.cons_append, ← whole]
      · rw [List.take_succ_cons]
        cases escaped with
        | true => exact .escape value
        | false =>
          by_cases backslash : c = 92
          · subst backslash
            exact value
          · rw [decide_eq_false backslash] at value
            exact .plain (fun quote => notQuote ⟨rfl, quote⟩) backslash value

theorem specLength_append {value : Bytes} (plain : 34 ∉ value) (more : Bytes) :
    specLength (value ++ 34 :: more) = some value.length := by
  induction value with
  | nil => rfl
  | cons c rest ih =>
    rw [List.mem_cons, not_or] at plain
    rw [List.cons_append, specLength, if_neg (Ne.symm plain.1), ih plain.2]
    rfl

theorem append_of_specLength (found : specLength text = some k) :
    34 ∉ text.take k ∧ ∃ more, text = text.take k ++ 34 :: more := by
  induction text generalizing k with
  | nil => cases found
  | cons c rest ih =>
    rw [specLength] at found
    split at found
    case _ quote =>
      cases found
      exact ⟨by simp, rest, by rw [quote]; rfl⟩
    case _ notQuote =>
      obtain ⟨k', found', rfl⟩ := Option.map_eq_some_iff.1 found
      obtain ⟨plain, more, whole⟩ := ih found'
      rw [List.take_succ_cons]
      refine ⟨?_, more, by rw [List.cons_append, ← whole]⟩
      rw [List.mem_cons, not_or]
      exact ⟨Ne.symm notQuote, plain⟩

/-- The value and the double quote behind it. -/
theorem take_value {more : Bytes} (inside : k < text.length)
    (whole : text = text.take k ++ 34 :: more) : text.take (k + 1) = text.take k ++ [34] := by
  have here : text[k]? = some 34 := by
    rw [whole, List.getElem?_append_right (by rw [List.length_take]; omega), List.length_take,
      Nat.min_eq_left (Nat.le_of_lt inside), Nat.sub_self]
    rfl
  rw [List.take_add_one, here]
  rfl

/-- An entry with its value. -/
theorem entryText_append {value : Bytes} (plain : 34 ∉ value)
    (entry : Bytes → Option PermitTCPFwdEntry)
    (append : PubKeyOptions → PermitTCPFwdEntry → PubKeyOptions) (options : PubKeyOptions)
    (more : Bytes) :
    entryText entry append options (value ++ [34] ++ more) =
      (entry (cString value)).map fun made => (append options made, value.length + 1) := by
  rw [entryText, List.append_assoc, List.singleton_append, specLength_append plain,
    Option.bind_some, List.take_left]

theorem exists_of_entryText {entry : Bytes → Option PermitTCPFwdEntry}
    {append : PubKeyOptions → PermitTCPFwdEntry → PubKeyOptions} {options options' : PubKeyOptions}
    (read : entryText entry append options text = some (options', k)) :
    ∃ value made, 34 ∉ value ∧ entry (cString value) = some made ∧ text.take k = value ++ [34] := by
  obtain ⟨k, found, read⟩ := Option.bind_eq_some_iff.1 read
  obtain ⟨made, isMade, result⟩ := Option.map_eq_some_iff.1 read
  cases result
  obtain ⟨plain, more, whole⟩ := append_of_specLength found
  exact ⟨_, made, plain, isMade, take_value (lt_of_specLength found) whole⟩

/-! ## Items -/

/-- What an item adds to the options; `none` if the parser refuses it. -/
def Item.add (features : Features) (einval : Bool) (options : PubKeyOptions) :
    Item → Option PubKeyOptions
  | .nothing => some options
  | .flag name => some (name.set features options)
  | .command value =>
    if options.forcedCommand.isSome then none else some { options with forcedCommand := some value }
  | .permitopen host port =>
    if port = .number 0 ∧ einval then none
    else some (appendPermitOpen options ⟨some host, port.code⟩)
  | .permitlisten port =>
    if port = 0 ∧ einval then none else some (appendPermitListen options ⟨none, port⟩)

/-- What the items add, one after the other. -/
def addItems (features : Features) (einval : Bool) :
    PubKeyOptions → List Item → Option PubKeyOptions
  | options, [] => some options
  | options, item :: items =>
    (item.add features einval options).bind fun options => addItems features einval options items

variable {name : Bytes}

theorem length_of_sameIgnoringCase (same : sameIgnoringCase text name) :
    text.length = name.length := by
  have := congrArg List.length (of_decide_eq_true same)
  rwa [List.length_map, List.length_map] at this

/-- Neither name is the beginning of the other. -/
def Apart (name name' : Bytes) : Prop :=
  ¬ name.map toLower <+: name'.map toLower ∧ ¬ name'.map toLower <+: name.map toLower

/-- Where an option stands, no option that is apart from it does. -/
theorem not_sameIgnoringCase_of_apart {name' : Bytes} (apart : Apart name name')
    (same : sameIgnoringCase text name) (more : Bytes) :
    ¬ sameIgnoringCase ((text ++ more).take name'.length) name' := by
  intro same'
  have begins : name.map toLower <+: (text ++ more).map toLower := by
    rw [← of_decide_eq_true same, List.map_append]
    exact List.prefix_append _ _
  have begins' : name'.map toLower <+: (text ++ more).map toLower := by
    rw [← of_decide_eq_true same', List.map_take]
    exact List.take_prefix _ _
  rcases List.prefix_or_prefix_of_prefix begins begins' with inside | inside
  · exact apart.1 inside
  · exact apart.2 inside

variable {table : List (Bytes × TextHandler)}

/-- The option of a table that stands in front of a text. -/
theorem firstText_of_mem {read : TextHandler} (apart : (table.map (·.1)).Pairwise Apart)
    (listed : (name, read) ∈ table) (same : sameIgnoringCase text name) (options : PubKeyOptions)
    (more : Bytes) :
    firstText table options (text ++ more) =
      (read options more).map fun result => (result.1, text.length + result.2) := by
  have length := length_of_sameIgnoringCase same
  induction table with
  | nil => cases listed
  | cons entry table ih =>
    obtain ⟨name', read'⟩ := entry
    rw [List.map_cons, List.pairwise_cons] at apart
    rw [firstText]
    rcases List.mem_cons.1 listed with here | there
    · cases here
      rw [← length, List.take_left, List.drop_left, if_pos same]
    · have apart' := apart.1 name (List.mem_map_of_mem there)
      rw [if_neg (not_sameIgnoringCase_of_apart ⟨apart'.2, apart'.1⟩ same more), ih apart.2 there]

/-- No option of the table stands in front of a text that begins with another character. -/
theorem firstText_of_none
    (none : ∀ entry ∈ table, ¬ sameIgnoringCase (text.take entry.1.length) entry.1)
    (options : PubKeyOptions) : firstText table options text = some (options, 0) := by
  induction table with
  | nil => rfl
  | cons entry table ih =>
    rw [firstText, if_neg (none entry (List.mem_cons_self ..)),
      ih fun other there => none other (List.mem_cons_of_mem _ there)]

variable {options options' : PubKeyOptions}

/-- The options that were read are unchanged, or those of an option of the table. -/
theorem firstText_cases (read : firstText table options text = some (options', k)) :
    (options' = options ∧ k = 0) ∨ ∃ name handle k', (name, handle) ∈ table ∧
      sameIgnoringCase (text.take name.length) name ∧
      handle options (text.drop name.length) = some (options', k') ∧ k = name.length + k' := by
  induction table with
  | nil =>
    cases read
    exact .inl ⟨rfl, rfl⟩
  | cons entry table ih =>
    obtain ⟨name, handle⟩ := entry
    rw [firstText] at read
    split at read
    case _ same =>
      obtain ⟨⟨options₁, k₁⟩, handled, result⟩ := Option.map_eq_some_iff.1 read
      cases result
      exact .inr ⟨name, handle, k₁, List.mem_cons_self .., same, handled, rfl⟩
    case _ =>
      rcases ih read with kept | ⟨name', handle', k', there, rest⟩
      · exact .inl kept
      · exact .inr ⟨name', handle', k', List.mem_cons_of_mem _ there, rest⟩

variable {item : Item} {items : List Item}

section

variable (features : Features) (einval : Bool)

instance (name name' : Bytes) : Decidable (Apart name name') := inferInstanceAs (Decidable (_ ∧ _))

theorem pairwise_textTable : ((textTable features einval).map (·.1)).Pairwise Apart := by
  change List.Pairwise Apart
    [ascii "no-port-forwarding", ascii "no-agent-forwarding", ascii "no-X11-forwarding",
      ascii "no-pty", ascii "restrict", ascii "command=\"", ascii "permitopen=\"",
      ascii "permitlisten=\"", ascii "no-touch-required", ascii "verify-required"]
  decide +kernel

/-- No name is empty or begins with a comma. -/
theorem head_textTable : ∀ entry ∈ textTable features einval,
    entry.1 ≠ [] ∧ (entry.1.map toLower).head? ≠ some 44 := by
  have names : ∀ name ∈ (textTable features einval).map (·.1),
      name ≠ [] ∧ (name.map toLower).head? ≠ some 44 := by
    change ∀ name ∈ [ascii "no-port-forwarding", ascii "no-agent-forwarding",
      ascii "no-X11-forwarding", ascii "no-pty", ascii "restrict", ascii "command=\"",
      ascii "permitopen=\"", ascii "permitlisten=\"", ascii "no-touch-required",
      ascii "verify-required"], name ≠ [] ∧ (name.map toLower).head? ≠ some 44
    decide +kernel
  exact fun entry listed => names entry.1 (List.mem_map_of_mem listed)

theorem flagTextEntry_mem (name : FlagName) :
    flagTextEntry features name ∈ textTable features einval := by
  cases name <;> simp [textTable]

/-- An item in front of a comma, or at the end, is read as what it adds. -/
theorem firstText_of_spells {more : Bytes} (spells : Spells Numeral text item)
    (ends : more = [] ∨ more.head? = some 44) (options : PubKeyOptions) :
    firstText (textTable features einval) options (text ++ more) =
      (item.add features einval options).map (·, text.length) := by
  have apart := pairwise_textTable features einval
  cases spells with
  | nothing =>
    rw [List.nil_append, firstText_of_none]
    · rfl
    · intro entry listed same
      obtain ⟨more', notComma⟩ := head_textTable features einval entry listed
      have equal := of_decide_eq_true same
      rcases ends with rfl | comma
      · rw [List.take_nil, List.map_nil] at equal
        exact more' (List.map_eq_nil_iff.1 equal.symm)
      · apply notComma
        rw [← equal, List.head?_map, List.head?_take, if_neg (List.length_pos_iff.2 more').ne',
          comma]
        rfl
  | @flag _ name same =>
    rw [firstText_of_mem apart (flagTextEntry_mem features einval name) same]
    rfl
  | @command keyword value same escaped =>
    have listed : (ascii "command=\"", commandText) ∈ textTable features einval := by
      simp [textTable]
    rw [List.append_assoc, firstText_of_mem apart listed same, commandText, Item.add]
    split
    · rfl
    · rw [List.append_assoc, List.singleton_append, commandLength_of_escaped escaped]
      simp only [Option.map_some, List.take_left, List.length_append, List.length_singleton]
  | @permitopen keyword value host port same plain isHostPort =>
    have listed : (ascii "permitopen=\"", entryText (permitopenEntry einval) appendPermitOpen) ∈
        textTable features einval := by simp [textTable]
    rw [List.append_assoc, firstText_of_mem apart listed same, entryText_append plain,
      permitopenEntry_of_hostPort einval isHostPort, Item.add]
    split
    · rfl
    · simp only [Option.map_some, List.length_append, List.length_singleton]
  | @permitlisten keyword value port same plain numeral fits =>
    have listed : (ascii "permitlisten=\"",
        entryText (permitlistenEntry einval) appendPermitListen) ∈
          textTable features einval := by simp [textTable]
    rw [List.append_assoc, firstText_of_mem apart listed same, entryText_append plain,
      permitlistenEntry, mStrToUint_of_numeral einval numeral, Item.add]
    by_cases zero : port = 0 ∧ einval
    · rw [if_pos (.inl zero), if_pos zero]
      rfl
    · rw [if_neg (not_or.2 ⟨zero, Nat.not_lt.2 fits⟩), if_neg zero]
      simp only [Option.map_some, List.length_append, List.length_singleton]

/-- What has been read is an item. -/
theorem spells_of_firstText
    (read : firstText (textTable features einval) options text = some (options', k)) :
    ∃ item, Spells Numeral (text.take k) item := by
  rcases firstText_cases read with ⟨_, rfl⟩ | ⟨name, handle, k', listed, same, handled, rfl⟩
  · exact ⟨.nothing, .nothing⟩
  · have flag : ∀ {name' : FlagName}, (name, handle) = flagTextEntry features name' →
        ∃ item, Spells Numeral (text.take (name.length + k')) item := by
      intro name' isFlag
      cases isFlag
      cases handled
      exact ⟨.flag name', .flag same⟩
    simp only [textTable, List.mem_cons, List.not_mem_nil, or_false] at listed
    rcases listed with isFlag | isFlag | isFlag | isFlag | isFlag | here | here | here | isFlag |
      isFlag
    · exact flag isFlag
    · exact flag isFlag
    · exact flag isFlag
    · exact flag isFlag
    · exact flag isFlag
    · cases here
      rw [commandText] at handled
      split at handled
      · cases handled
      · obtain ⟨k, found, result⟩ := Option.map_eq_some_iff.1 handled
        cases result
        obtain ⟨more, whole, escaped⟩ := escaped_of_commandLength found
        rw [List.take_add, take_value (lt_of_commandLength found) whole]
        exact ⟨_, .command same escaped⟩
    · cases here
      obtain ⟨value, entry, plain, made, taken⟩ := exists_of_entryText handled
      obtain ⟨host, port, isHostPort⟩ := hostPort_of_permitopenEntry made
      rw [List.take_add, taken]
      exact ⟨_, .permitopen same plain isHostPort⟩
    · cases here
      obtain ⟨value, entry, plain, made, taken⟩ := exists_of_entryText handled
      obtain ⟨port, read', _⟩ := Option.map_eq_some_iff.1 made
      obtain ⟨numeral, fits⟩ := numeral_of_mStrToUint read'
      rw [List.take_add, taken]
      exact ⟨_, .permitlisten same plain numeral fits⟩
    · exact flag isFlag
    · exact flag isFlag

/-! ## Texts -/

theorem denotes_singleton {Number : Bytes → Nat → Prop} (spells : Spells Number text item) :
    Denotes Number text [item] :=
  ⟨[text], nofun, by simp [List.intercalate], .cons spells .nil⟩

theorem denotes_cons {texts : Bytes} (spells : Spells Numeral text item)
    (denotes : Denotes Numeral texts items) : Denotes Numeral (text ++ 44 :: texts) (item :: items) := by
  obtain ⟨parts, some, rfl, all⟩ := denotes
  obtain ⟨part, parts, rfl⟩ := List.exists_cons_of_ne_nil some
  refine ⟨text :: part :: parts, nofun, ?_, .cons spells all⟩
  simp [List.intercalate, List.intersperse]

/-- A text with items is one item, or one item, a comma and such a text. -/
theorem Denotes.induction
    {motive : (text : Bytes) → (items : List Item) → Denotes Numeral text items → Prop}
    (single : ∀ text item (spells : Spells Numeral text item),
      motive text [item] (denotes_singleton spells))
    (cons : ∀ text item texts items (spells : Spells Numeral text item)
      (denotes : Denotes Numeral texts items), motive texts items denotes →
        motive (text ++ 44 :: texts) (item :: items) (denotes_cons spells denotes))
    (denotes : Denotes Numeral text items) :
    motive text items denotes := by
  obtain ⟨parts, some, rfl, all⟩ := denotes
  induction all with
  | nil => exact absurd rfl some
  | @cons part item parts items spells all ih =>
    cases all with
    | nil =>
      have whole : [44].intercalate [part] = part := by simp [List.intercalate]
      generalize_proofs denotes
      generalize [44].intercalate [part] = text at whole denotes
      subst whole
      exact single text item spells
    | @cons second item' parts items spells' all =>
      have whole : [44].intercalate (part :: second :: parts) =
          part ++ 44 :: [44].intercalate (second :: parts) := by
        simp [List.intercalate, List.intersperse]
      generalize_proofs denotes
      generalize [44].intercalate (part :: second :: parts) = text at whole denotes
      subst whole
      exact cons part item _ _ spells _ (ih nofun)

theorem eq_nothing_of_spells (spells : Spells Numeral [] item) : item = .nothing := by
  generalize isText : ([] : Bytes) = text at spells
  cases spells with
  | nothing => rfl
  | @flag _ name same =>
    subst isText
    cases name <;> cases same
  | command same _ | permitopen same _ _ | permitlisten same _ _ _ =>
    have := congrArg List.length isText
    simp at this

/-- The items are added one after the other. -/
theorem parseLoopText_of_denotes (denotes : Denotes Numeral text items) (enough : text.length ≤ n)
    (options : PubKeyOptions) :
    parseLoopText (firstText (textTable features einval)) n options text =
      addItems features einval options items := by
  have atEnd : ∀ n options, parseLoopText (firstText (textTable features einval)) n options [] =
      some options := by
    intro n options
    cases n with
    | zero => rfl
    | succ n => rw [parseLoopText, if_pos rfl]
  induction denotes using Denotes.induction generalizing n options with
  | single text item spells =>
    rw [addItems]
    by_cases nothing : text = []
    · subst nothing
      rw [atEnd, eq_nothing_of_spells spells]
      rfl
    · cases n with
      | zero => exact absurd (List.eq_nil_of_length_eq_zero (Nat.le_zero.1 enough)) nothing
      | succ n =>
        have read := firstText_of_spells features einval spells (.inl rfl) options
        rw [List.append_nil] at read
        rw [parseLoopText, if_neg nothing, read]
        cases item.add features einval options with
        | none => rfl
        | some options' =>
          dsimp only [Option.map_some, Option.bind_some]
          rw [List.drop_length]
          exact atEnd n options'
  | cons text item texts items spells _ ih =>
    rw [addItems]
    cases n with
    | zero =>
      rw [List.length_append, List.length_cons] at enough
      omega
    | succ n =>
      rw [parseLoopText, if_neg (by simp), firstText_of_spells features einval spells (.inr rfl)]
      cases item.add features einval options with
      | none => rfl
      | some options' =>
        dsimp only [Option.map_some, Option.bind_some]
        rw [List.drop_left]
        dsimp only
        rw [if_neg (not_not_intro rfl)]
        rw [List.length_append, List.length_cons] at enough
        exact ih (by omega) options'

theorem denotes_of_parseLoopText (enough : text.length ≤ n)
    (read : parseLoopText (firstText (textTable features einval)) n options text = some options') :
    ∃ items, Denotes Numeral text items := by
  induction n generalizing text options with
  | zero =>
    rw [List.eq_nil_of_length_eq_zero (Nat.le_zero.1 enough)]
    exact ⟨_, denotes_singleton .nothing⟩
  | succ n ih =>
    rw [parseLoopText] at read
    split at read
    case _ nothing =>
      subst nothing
      exact ⟨_, denotes_singleton .nothing⟩
    case _ more =>
      obtain ⟨⟨options₁, k⟩, first, read⟩ := Option.bind_eq_some_iff.1 read
      obtain ⟨item, spells⟩ := spells_of_firstText features einval first
      dsimp only at read
      cases behind : text.drop k with
      | nil =>
        have whole : text.take k = text := by
          rw [← List.take_append_drop k text, behind]
          simp
        exact ⟨_, denotes_singleton (whole ▸ spells)⟩
      | cons c rest =>
        rw [behind] at read
        dsimp only at read
        split at read
        · cases read
        case _ comma =>
          rw [not_not] at comma
          subst comma
          have length := congrArg List.length behind
          rw [List.length_drop, List.length_cons] at length
          obtain ⟨items, denotes⟩ := ih (by omega) read
          rw [← List.take_append_drop k text, behind]
          exact ⟨_, denotes_cons spells denotes⟩

end

/-! ## Decimal ports -/

theorem Decimal.numeral (decimal : Decimal text n) : Numeral text n := by
  cases decimal with
  | digits more numeric => exact @Numeral.mk [] [] text false nofun .none more numeric nofun

theorem PortText.numeral (isPort : PortText Decimal text port) : PortText Numeral text port := by
  cases isPort with
  | any => exact .any
  | number decimal fits => exact .number decimal.numeral fits

theorem HostPort.numeral (isHostPort : HostPort Decimal spec host port) :
    HostPort Numeral spec host port := by
  cases isHostPort with
  | plain some noBracket isPort => exact .plain some noBracket isPort.numeral
  | bracketed some inside isPort => exact .bracketed some inside isPort.numeral

theorem Spells.numeral (spells : Spells Decimal text item) : Spells Numeral text item := by
  cases spells with
  | nothing => exact .nothing
  | flag same => exact .flag same
  | command same escaped => exact .command same escaped
  | permitopen same plain isHostPort => exact .permitopen same plain isHostPort.numeral
  | permitlisten same plain decimal fits => exact .permitlisten same plain decimal.numeral fits

theorem Denotes.numeral (denotes : Denotes Decimal text items) : Denotes Numeral text items := by
  obtain ⟨texts, some, whole, all⟩ := denotes
  exact ⟨texts, some, whole, all.imp fun _ _ spells => spells.numeral⟩

/-! ## Meaning -/

/-- The items have been added to the options. -/
structure Added (features : Features) (options : PubKeyOptions) (items : List Item)
    (result : PubKeyOptions) : Prop where
  noPortForwarding : result.noPortForwardingFlag = (options.noPortForwardingFlag ||
    (items.contains (.flag .noPortForwarding) || items.contains (.flag .restrict)))
  noAgentForwarding : result.noAgentForwardingFlag = (options.noAgentForwardingFlag ||
    features.svrAgentfwd &&
      (items.contains (.flag .noAgentForwarding) || items.contains (.flag .restrict)))
  noX11Forwarding : result.noX11ForwardingFlag = (options.noX11ForwardingFlag ||
    features.x11fwd &&
      (items.contains (.flag .noX11Forwarding) || items.contains (.flag .restrict)))
  noPty : result.noPtyFlag = (options.noPtyFlag ||
    (items.contains (.flag .noPty) || items.contains (.flag .restrict)))
  noTouchRequired : result.noTouchRequiredFlag = (options.noTouchRequiredFlag ||
    features.sk && items.contains (.flag .noTouchRequired))
  verifyRequired : result.verifyRequiredFlag = (options.verifyRequiredFlag ||
    features.sk && items.contains (.flag .verifyRequired))
  forcedCommand : ∀ value, result.forcedCommand = some value ↔
    options.forcedCommand = some value ∨ .command value ∈ items
  permitOpen : ∀ entry, entry ∈ result.permitOpenDestinations.getD [] ↔
    entry ∈ options.permitOpenDestinations.getD [] ∨
      ∃ host port, .permitopen host port ∈ items ∧ entry = ⟨some host, port.code⟩
  hasPermitOpen : result.permitOpenDestinations.isSome ↔
    options.permitOpenDestinations.isSome ∨ ∃ host port, .permitopen host port ∈ items
  permitListen : ∀ entry, entry ∈ result.permitListens.getD [] ↔
    entry ∈ options.permitListens.getD [] ∨ ∃ port, .permitlisten port ∈ items ∧ entry = ⟨none, port⟩
  hasPermitListen : result.permitListens.isSome ↔
    options.permitListens.isSome ∨ ∃ port, .permitlisten port ∈ items

theorem added_nil (features : Features) (options : PubKeyOptions) :
    Added features options [] options := by
  constructor <;> simp

variable {result : PubKeyOptions}

variable {features : Features}

theorem added_singleton (add : item.add features einval options = some result) :
    Added features options [item] result := by
  cases item with
  | nothing =>
    cases add
    constructor <;> simp
  | flag name =>
    cases add
    cases name <;> constructor <;> simp [FlagName.set]
  | command value =>
    rw [Item.add] at add
    split at add
    · cases add
    case _ first =>
      cases add
      have none : options.forcedCommand = none := Option.not_isSome_iff_eq_none.1 first
      constructor <;> simp [none]
      exact fun _ => eq_comm
  | permitopen host port =>
    rw [Item.add] at add
    split at add
    · cases add
    · cases add
      constructor <;> simp [appendPermitOpen]
  | permitlisten port =>
    rw [Item.add] at add
    split at add
    · cases add
    · cases add
      constructor <;> simp [appendPermitListen]

theorem Added.trans {items' : List Item} (first : Added features options items options')
    (second : Added features options' items' result) :
    Added features options (items ++ items') result where
  noPortForwarding := by
    simp only [second.noPortForwarding, first.noPortForwarding, List.contains_append]
    ac_rfl
  noAgentForwarding := by
    simp only [second.noAgentForwarding, first.noAgentForwarding, List.contains_append,
      Bool.and_or_distrib_left]
    ac_rfl
  noX11Forwarding := by
    simp only [second.noX11Forwarding, first.noX11Forwarding, List.contains_append,
      Bool.and_or_distrib_left]
    ac_rfl
  noPty := by
    simp only [second.noPty, first.noPty, List.contains_append]
    ac_rfl
  noTouchRequired := by
    simp only [second.noTouchRequired, first.noTouchRequired, List.contains_append,
      Bool.and_or_distrib_left]
    ac_rfl
  verifyRequired := by
    simp only [second.verifyRequired, first.verifyRequired, List.contains_append,
      Bool.and_or_distrib_left]
    ac_rfl
  forcedCommand value := by
    rw [second.forcedCommand, first.forcedCommand, List.mem_append, or_assoc]
  permitOpen entry := by
    rw [second.permitOpen, first.permitOpen]
    simp only [List.mem_append, or_and_right, exists_or, or_assoc]
  hasPermitOpen := by
    rw [second.hasPermitOpen, first.hasPermitOpen]
    simp only [List.mem_append, exists_or, or_assoc]
  permitListen entry := by
    rw [second.permitListen, first.permitListen]
    simp only [List.mem_append, or_and_right, exists_or, or_assoc]
  hasPermitListen := by
    rw [second.hasPermitListen, first.hasPermitListen]
    simp only [List.mem_append, exists_or, or_assoc]

theorem added_of_addItems (add : addItems features einval options items = some result) :
    Added features options items result := by
  induction items generalizing options with
  | nil =>
    cases add
    exact added_nil features _
  | cons item items ih =>
    rw [addItems] at add
    obtain ⟨options', first, rest⟩ := Option.bind_eq_some_iff.1 add
    exact (added_singleton first).trans (ih rest)

/-- The item has the port 0. -/
def Item.portZero : Item → Bool
  | .permitopen _ port => port = .number 0
  | .permitlisten port => port = 0
  | _ => false

theorem forcedCommand_set (features : Features) (options : PubKeyOptions) (name : FlagName) :
    (name.set features options).forcedCommand = options.forcedCommand := by
  cases name <;> rfl

/-- An item is refused if it is a second command, or has the port 0 where `errno` is wrong. -/
theorem isSome_add (options : PubKeyOptions) (item : Item) :
    (item.add features einval options).isSome ↔
      ¬ (item.isCommand ∧ options.forcedCommand.isSome) ∧ (einval → item.portZero = false) := by
  cases item with
  | nothing => simp [Item.add, Item.isCommand, Item.portZero]
  | flag name => simp [Item.add, Item.isCommand, Item.portZero]
  | command value =>
    rw [Item.add]
    split <;> simp_all [Item.isCommand, Item.portZero]
  | permitopen host port =>
    by_cases zero : port = .number 0 <;> simp [Item.add, Item.isCommand, Item.portZero, zero]
  | permitlisten port =>
    by_cases zero : port = 0 <;> simp [Item.add, Item.isCommand, Item.portZero, zero]

theorem forcedCommand_of_add (add : item.add features einval options = some options') :
    options'.forcedCommand.isSome = (options.forcedCommand.isSome || item.isCommand) := by
  cases item with
  | nothing =>
    cases add
    exact (Bool.or_false _).symm
  | flag name =>
    cases add
    rw [forcedCommand_set]
    exact (Bool.or_false _).symm
  | command value =>
    rw [Item.add] at add
    split at add <;> cases add
    exact (Bool.or_true _).symm
  | permitopen host port =>
    rw [Item.add] at add
    split at add <;> cases add
    exact (Bool.or_false _).symm
  | permitlisten port =>
    rw [Item.add] at add
    split at add <;> cases add
    exact (Bool.or_false _).symm

theorem isSome_addItems (options : PubKeyOptions) (items : List Item) :
    (addItems features einval options items).isSome ↔
      options.forcedCommand.isSome.toNat + items.countP Item.isCommand ≤ 1 ∧
        (einval → ∀ item ∈ items, item.portZero = false) := by
  induction items generalizing options with
  | nil => exact ⟨fun _ => ⟨Bool.toNat_le _, fun _ => nofun⟩, fun _ => rfl⟩
  | cons item items ih =>
    have taken : (item.add features einval options).isSome ↔ _ := isSome_add options item
    rw [addItems, List.countP_cons, List.forall_mem_cons]
    cases add : item.add features einval options with
    | none =>
      rw [add] at taken
      refine iff_of_false nofun fun both => Bool.false_ne_true (taken.2 ⟨?_, fun isInval =>
        (both.2 isInval).1⟩)
      rintro ⟨isCommand, set⟩
      have few := both.1
      rw [isCommand, set, if_pos rfl] at few
      change 1 + _ ≤ 1 at few
      omega
    | some options' =>
      rw [add] at taken
      obtain ⟨first, nonzero⟩ := taken.1 rfl
      rw [Option.bind_some, ih, forcedCommand_of_add add]
      refine and_congr ?_ ⟨fun rest isInval => ⟨nonzero isInval, rest isInval⟩,
        fun both isInval => (both isInval).2⟩
      cases set : options.forcedCommand.isSome <;> cases isCommand : item.isCommand <;>
        simp_all [Nat.add_comm]

theorem length_of_denotes (denotes : Denotes Numeral text items) :
    items.length ≤ text.length + 1 := by
  induction denotes using Denotes.induction with
  | single text item _ =>
    rw [List.length_singleton]
    omega
  | cons text item texts items _ _ ih =>
    rw [List.length_cons, List.length_append, List.length_cons]
    omega

/-- Everything is permitted if nothing is listed, and otherwise what is listed. -/
theorem anyPermits_iff {entries : Option (List PermitTCPFwdEntry)} {listed : PermitTCPFwdEntry → Prop}
    (has : entries.isSome ↔ ∃ entry, listed entry)
    (mem : ∀ entry, entry ∈ entries.getD [] ↔ listed entry) (fits : PermitTCPFwdEntry → Bool) :
    anyPermits entries fits ↔
      (∀ entry, ¬ listed entry) ∨ ∃ entry, listed entry ∧ fits entry := by
  cases entries with
  | none =>
    refine ⟨fun _ => .inl fun entry there => ?_, fun _ => rfl⟩
    cases has.2 ⟨entry, there⟩
  | some entries =>
    obtain ⟨first, there⟩ := has.1 rfl
    rw [anyPermits, List.any_eq_true, or_iff_right fun none => none first there]
    exact exists_congr fun entry => and_congr_left fun _ => mem entry

/-- The options that were added to none, if no port number is taken for the wildcard. -/
theorem Added.means (added : Added features {} items options)
    (wildcard : ∀ host, .permitopen host (.number uintMax) ∈ items → .permitopen host .any ∈ items) :
    Means features items options where
  noPortForwarding := added.noPortForwarding
  noAgentForwarding := added.noAgentForwarding
  noX11Forwarding := added.noX11Forwarding
  noPty := added.noPty
  noTouchRequired := added.noTouchRequired
  verifyRequired := added.verifyRequired
  forcedCommand value := by
    rw [added.forcedCommand]
    exact or_iff_right (Option.some_ne_none value).symm
  localTcpfwd host port _ := by
    have has : options.permitOpenDestinations.isSome ↔ ∃ entry : PermitTCPFwdEntry,
        ∃ host port, .permitopen host port ∈ items ∧ entry = ⟨some host, port.code⟩ := by
      rw [added.hasPermitOpen]
      refine (or_iff_right Bool.false_ne_true).trans ?_
      constructor
      · rintro ⟨host, port, listed⟩
        exact ⟨_, host, port, listed, rfl⟩
      · rintro ⟨_, host, port, listed, _⟩
        exact ⟨host, port, listed⟩
    rw [svrPubkeyAllowsLocalTcpfwd, Option.bind_some, anyPermits_iff has
      fun entry => (added.permitOpen entry).trans (or_iff_right List.not_mem_nil)]
    apply or_congr
    · constructor
      · exact fun none host port listed => none _ ⟨host, port, listed, rfl⟩
      · rintro none _ ⟨host, port, listed, _⟩
        exact none host port listed
    · constructor
      · rintro ⟨_, ⟨host', port', listed, rfl⟩, fits⟩
        obtain ⟨sameHost, samePort⟩ := of_decide_eq_true fits
        cases sameHost
        cases port' with
        | any => exact .inl listed
        | number n =>
          rcases samePort with isAny | rfl
          · change n = uintMax at isAny
            exact .inl (wildcard host (isAny ▸ listed))
          · exact .inr listed
      · rintro (listed | listed)
        · exact ⟨_, ⟨host, .any, listed, rfl⟩, decide_eq_true ⟨rfl, .inl rfl⟩⟩
        · exact ⟨_, ⟨host, .number port, listed, rfl⟩, decide_eq_true ⟨rfl, .inr rfl⟩⟩
  remoteTcpfwd port _ := by
    have has : options.permitListens.isSome ↔ ∃ entry : PermitTCPFwdEntry,
        ∃ port, .permitlisten port ∈ items ∧ entry = ⟨none, port⟩ := by
      rw [added.hasPermitListen]
      refine (or_iff_right Bool.false_ne_true).trans ?_
      constructor
      · rintro ⟨port, listed⟩
        exact ⟨_, port, listed, rfl⟩
      · rintro ⟨_, port, listed, _⟩
        exact ⟨port, listed⟩
    rw [svrPubkeyAllowsRemoteTcpfwd, Option.bind_some, anyPermits_iff has
      fun entry => (added.permitListen entry).trans (or_iff_right List.not_mem_nil)]
    apply or_congr
    · constructor
      · exact fun none port listed => none _ ⟨port, listed, rfl⟩
      · rintro none _ ⟨port, listed, _⟩
        exact none port listed
    · constructor
      · rintro ⟨_, ⟨port', listed, rfl⟩, fits⟩
        exact of_decide_eq_true fits ▸ listed
      · intro listed
        exact ⟨_, ⟨port, listed, rfl⟩, decide_eq_true rfl⟩

/-- **Public key options fail closed and mean what they say**: the parser accepts exactly the
well-formed texts, and the options it returns are those of the items. -/
structure FailsClosed (features : Features) (einval : Bool) (optionsBuf : Buffer) : Prop where
  accepts : (∃ options, svrParsePubkeyOptionsBuf features einval (some optionsBuf) =
    .ok (some options)) ↔ WellFormed optionsBuf.contents
  means : ∀ options items, svrParsePubkeyOptionsBuf features einval (some optionsBuf) =
    .ok (some options) → Denotes Decimal optionsBuf.contents items → Means features items options

/-- The ports are written plainly. -/
structure PlainPorts (einval : Bool) (text : Bytes) : Prop where
  /-- None has white space or a sign in front of it, in a text that would be accepted. -/
  digits : ∀ items, Denotes Numeral text items → items.countP Item.isCommand ≤ 1 →
    (einval → ∀ item ∈ items, item.portZero = false) → ∃ items', Denotes Decimal text items'
  /-- None is 0 while `errno` is `EINVAL`. -/
  nonzero : ∀ items, Denotes Decimal text items → items.countP Item.isCommand ≤ 1 →
    einval → ∀ item ∈ items, item.portZero = false
  /-- The largest port number is permitted only for hosts for which all ports are. -/
  wildcard : ∀ items, Denotes Decimal text items → items.countP Item.isCommand ≤ 1 →
    ∀ host, .permitopen host (.number uintMax) ∈ items → .permitopen host .any ∈ items

/-- Some port is not among those of the items. -/
theorem exists_other_port (few : items.length ≤ uintMax) (host : Bytes) :
    ∃ port ≤ uintMax, .permitopen host (.number port) ∉ items := by
  have distinct : Function.Injective fun port => Item.permitopen host (.number port) := by
    intro port port' same
    exact Port.number.inj (Item.permitopen.inj same).2
  have fewer : items.toFinset.card <
      ((Finset.range (uintMax + 1)).image fun port => Item.permitopen host (.number port)).card := by
    rw [Finset.card_image_of_injective _ distinct, Finset.card_range]
    have := List.toFinset_card_le items
    omega
  obtain ⟨item, isPort, other⟩ := Finset.exists_mem_notMem_of_card_lt_card fewer
  obtain ⟨port, bounded, rfl⟩ := Finset.mem_image.1 isPort
  exact ⟨port, Nat.le_of_lt_succ (Finset.mem_range.1 bounded),
    fun listed => other (List.mem_toFinset.2 listed)⟩

/-- An option that permits one port of one host. -/
def permitopenBuf : Buffer := .ofBytes (ascii "permitopen=\"h:4294967295\"") (by decide)

end Dropbear.Auth
