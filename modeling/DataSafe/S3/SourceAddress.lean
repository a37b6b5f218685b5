import DataSafe.Base.Joined
import DataSafe.Base.Text

/-!
# The source address of a request

The condition `aws:SourceIp` of a policy sees the address of the peer.  Behind
a trusted proxy it sees the last address of `X-Forwarded-For` that is not one
of a trusted proxy, and if there is none, `X-Real-IP`.

`Header.Get` reads the first line of a header.  A proxy that appends the
address of its client to the only line decides what is seen.  Where the client
has sent more lines than one, or the proxy adds a line of its own, the first
line is the client's.

The functions of the package `net` are parameters.  All that is needed of
them is that the text of an address is not empty and has no comma and no white
space in it.
-/

namespace DataSafe.S3

open Base

/-! ## Addresses -/

/-- The functions of the package `net`. -/
structure Network where
  Address : Type
  /-- `net.ParseIP` -/
  parseIP : String → Option Address
  /-- The address has a form of four bytes. -/
  isIPv4 : Address → Bool
  /-- `net.ParseCIDR`, as the test whether an address is in the network. -/
  parseCIDR : String → Option (Address → Bool)
  /-- The host of `net.SplitHostPort`. -/
  splitHostPort : String → Option String
  plain : ∀ {text : String} {address : Address},
    parseIP text = some address → text ≠ "" ∧
        ∀ rune ∈ text.toList, rune ≠ ',' ∧ isSpaceRune rune = false

/-- `strings.Split` at commas. -/
def splitCommas (text : String) : List String :=
  (text.toList.splitOn ',').map String.ofList

namespace Network

variable (network : Network)

/-- One part of `STORAGE_TRUSTED_PROXIES`. -/
def proxyNet (part : String) : Option (network.Address → Bool) :=
  let part := trimText part
  if part = "" then none
  else if includes "/" part then network.parseCIDR part
  else
    match network.parseIP part with
    | none => none
    | some address =>
      network.parseCIDR
        (part ++ "/" ++ if network.isIPv4 address then "32" else "128")

def trustedProxyNets (proxies : String) : List (network.Address → Bool) :=
  (splitCommas proxies).filterMap network.proxyNet

def ipTrusted (proxies text : String) : Bool :=
  match network.parseIP (trimText text) with
  | none => false
  | some address =>
    (network.trustedProxyNets proxies).any (fun net => net address)

/-- `strings.Trim` with the two brackets. -/
def trimBrackets (text : String) : String :=
  let bracket := fun rune => rune == '[' || rune == ']'
  String.ofList
    ((text.toList.dropWhile bracket).reverse.dropWhile bracket).reverse

def peerIP (remoteAddr : String) : String :=
  trimBrackets ((network.splitHostPort remoteAddr).getD remoteAddr)

/-- The rightmost hop that is an address and no trusted proxy. -/
def forwardedClientIP (proxies line : String) : String :=
  (((splitCommas line).map trimText).reverse.find? (fun hop =>
    (network.parseIP hop).isSome && !network.ipTrusted proxies hop)).getD ""

/-- What the source address is read from: the peer and two headers. -/
structure Arrival where
  remoteAddr : String
  /-- The lines of `X-Forwarded-For`. -/
  forwardedFor : List String
  /-- The lines of `X-Real-IP`. -/
  realIP : List String
deriving DecidableEq

/-- `Header.Get` -/
def headerGet (lines : List String) : String :=
  lines.headD ""

def requestSourceIP (proxies : String) (arrival : Arrival) : String :=
  let remote := network.peerIP arrival.remoteAddr
  if network.ipTrusted proxies remote = false then remote
  else
    let client := network.forwardedClientIP proxies
      (headerGet arrival.forwardedFor)
    if client ≠ "" then client
    else
      let realIP := trimText (headerGet arrival.realIP)
      if realIP ≠ "" ∧ (network.parseIP realIP).isSome ∧
          network.ipTrusted proxies realIP = false then realIP
      else remote

end Network

/-! ## Proxies -/

/-- How a proxy appends the address of its client. -/
inductive Appending where
  /-- Behind a comma and perhaps white space, on the last line there is. -/
  | joined (gap : String) (blank : gap.toList.all isSpaceRune = true)
  /-- On a line of its own. -/
  | ownLine

/-- The lines that the server receives. -/
def Appending.apply (appending : Appending) (lines : List String)
    (address : String) : List String :=
  match appending, lines.getLast? with
  | .joined gap _, some last =>
    lines.dropLast ++ [last ++ "," ++ gap ++ address]
  | _, _ => lines ++ [address]

/-- With so many lines of the client the server receives one. -/
def Appending.OneLine (appending : Appending) (count : Nat) : Prop :=
  match appending with
  | .joined _ _ => count ≤ 1
  | .ownLine => count = 0

/-! ## Trimming -/

theorem dropWhile_of_plain {runes : List Char}
    (plain : ∀ rune ∈ runes, isSpaceRune rune = false) :
    runes.dropWhile isSpaceRune = runes := by
  cases runes with
  | nil => rfl
  | cons rune rest => simp [plain rune (List.mem_cons_self ..)]

variable {text part : String}

theorem trimText_of_plain
    (plain : ∀ rune ∈ text.toList, isSpaceRune rune = false) :
    trimText text = text := by
  have back : ∀ rune ∈ text.toList.reverse, isSpaceRune rune = false :=
    fun rune member => plain rune (List.mem_reverse.mp member)
  rw [trimText, dropWhile_of_plain plain, dropWhile_of_plain back,
    List.reverse_reverse, String.ofList_toList]

theorem trimText_append_of_blank {gap : String}
    (blank : gap.toList.all isSpaceRune = true) :
    trimText (gap ++ text) = trimText text := by
  have dropped : (gap ++ text).toList.dropWhile isSpaceRune =
      text.toList.dropWhile isSpaceRune := by
    rw [String.toList_append, List.dropWhile_append_of_pos]
    exact List.all_eq_true.mp blank
  rw [trimText, dropped, trimText]

theorem splitOnP_of_free {runes : List Char} (free : ',' ∉ runes) :
    runes.splitOnP (· == ',') = [runes] := by
  apply List.splitOnP_eq_singleton
  intro rune member
  have other : rune ≠ ',' := fun comma => free (comma ▸ member)
  simpa using other

/-- A part without a comma that is put behind one is the last part. -/
theorem splitCommas_append {line : String} (free : ',' ∉ part.toList) :
    splitCommas (line ++ "," ++ part) = splitCommas line ++ [part] := by
  have split : (line.toList ++ ',' :: part.toList).splitOn ',' =
      line.toList.splitOn ',' ++ [part.toList] := by
    rw [List.splitOn, List.splitOnP_append_cons _ _ (by simp),
      splitOnP_of_free free]
    rfl
  have lists : (line ++ "," ++ part).toList =
      line.toList ++ ',' :: part.toList := by
    simp
  rw [splitCommas, lists, split, splitCommas]
  simp

theorem splitCommas_of_free (free : ',' ∉ part.toList) :
    splitCommas part = [part] := by
  have single : part.toList.splitOn ',' = [part.toList] :=
    splitOnP_of_free free
  simp [splitCommas, single]

/-! ## What is seen -/

section Seen

variable {network : Network} {proxies : String}

theorem requestSourceIP_of_untrusted {arrival : Network.Arrival}
    (untrusted : network.ipTrusted proxies
      (network.peerIP arrival.remoteAddr) = false) :
    network.requestSourceIP proxies arrival =
      network.peerIP arrival.remoteAddr := by
  rw [Network.requestSourceIP, if_pos untrusted]

/-- The address of a client of a trusted proxy. -/
structure ClientAddress (network : Network) (proxies address : String) :
    Prop where
  valid : (network.parseIP address).isSome = true
  untrusted : network.ipTrusted proxies address = false

variable {address : String}

section

variable (client : ClientAddress network proxies address)

include client

theorem ClientAddress.plain :
    address ≠ "" ∧ ∀ rune ∈ address.toList,
        rune ≠ ',' ∧ isSpaceRune rune = false := by
  obtain ⟨parsed, found⟩ := Option.isSome_iff_exists.mp client.valid
  exact network.plain found

theorem ClientAddress.trim :
    trimText address = address :=
  trimText_of_plain fun rune member => (client.plain.2 rune member).2

theorem ClientAddress.free :
    ',' ∉ address.toList :=
  fun member => (client.plain.2 ',' member).1 rfl

/-- The hop walk stops at an address of a client that comes last. -/
theorem forwardedClientIP_of_last
    {line : String} (front : List String)
    (split : splitCommas line = front ++ [part])
    (trimmed : trimText part = address) :
    network.forwardedClientIP proxies line = address := by
  rw [Network.forwardedClientIP, split]
  simp [trimmed, client.valid, client.untrusted]

/-- A single line with the address at its end. -/
theorem forwardedClientIP_apply
    (appending : Appending) {lines : List String}
    (oneLine : appending.OneLine lines.length) :
    network.forwardedClientIP proxies
        (Network.headerGet (appending.apply lines address)) = address := by
  have alone : network.forwardedClientIP proxies address = address :=
    forwardedClientIP_of_last client []
      (splitCommas_of_free client.free) client.trim
  cases appending with
  | ownLine =>
    rw [List.eq_nil_of_length_eq_zero oneLine]
    exact alone
  | joined gap blank =>
    match lines, oneLine with
    | [], _ => exact alone
    | [line], _ =>
      have free : ',' ∉ (gap ++ address).toList := by
        rw [String.toList_append, List.mem_append]
        rintro (inGap | inAddress)
        · have space := List.all_eq_true.mp blank ',' inGap
          revert space
          decide
        · exact client.free inAddress
      have same : Network.headerGet
          ((Appending.joined gap blank).apply [line] address) =
          line ++ "," ++ (gap ++ address) := by
        simp [Network.headerGet, Appending.apply, String.append_assoc]
      rw [same]
      exact forwardedClientIP_of_last client _ (splitCommas_append free)
        (by rw [trimText_append_of_blank blank, client.trim])

theorem requestSourceIP_of_forwarded {arrival : Network.Arrival}
    (trusted : network.ipTrusted proxies
      (network.peerIP arrival.remoteAddr) = true)
    (seen : network.forwardedClientIP proxies
      (Network.headerGet arrival.forwardedFor) = address) :
    network.requestSourceIP proxies arrival = address := by
  simp [Network.requestSourceIP, trusted, seen, client.plain.1]

end

/-- A text that is no address, also when it is trimmed. -/
theorem parseIP_gap : network.parseIP "x y" = none := by
  by_contra found
  obtain ⟨parsed, found⟩ := Option.ne_none_iff_exists'.mp found
  have space := ((network.plain found).2 ' ' (by decide)).2
  revert space
  decide

theorem forwardedClientIP_gap :
    network.forwardedClientIP proxies "x y" = "" := by
  have split : splitCommas "x y" = ["x y"] :=
    splitCommas_of_free (by decide)
  have trimmed : trimText "x y" = "x y" := by decide
  simp [Network.forwardedClientIP, split, trimmed, parseIP_gap]

/-- With more lines than one the first of them is the client's. -/
theorem headerGet_apply {appending : Appending} {count : Nat}
    (more : ¬ appending.OneLine count) (line : String) :
    Network.headerGet
      (appending.apply (List.replicate count line) address) = line := by
  cases appending with
  | ownLine =>
    obtain ⟨less, rfl⟩ : ∃ less, count = less + 1 :=
      Nat.exists_eq_succ_of_ne_zero more
    simp [Appending.apply, Network.headerGet, List.replicate_succ]
  | joined gap blank =>
    obtain ⟨less, rfl⟩ : ∃ less, count = less + 2 :=
      ⟨count - 2, by simp only [Appending.OneLine] at more; omega⟩
    have last : (List.replicate (less + 2) line).getLast? = some line := by
      simp [List.getLast?_replicate]
    simp only [Appending.apply, last]
    simp [Network.headerGet, List.replicate_succ]

end Seen

/--
A peer that is not trusted is seen itself.  Of the clients of a trusted proxy
the appended address is seen, whatever they have sent, exactly if the server
receives one line.
-/
theorem source_address_iff (network : Network) (proxies remoteAddr : String) :
    (network.ipTrusted proxies (network.peerIP remoteAddr) = false →
      ∀ forwardedFor realIP,
        network.requestSourceIP proxies ⟨remoteAddr, forwardedFor, realIP⟩ =
          network.peerIP remoteAddr) ∧
    (network.ipTrusted proxies (network.peerIP remoteAddr) = true →
      ∀ address, ClientAddress network proxies address →
        ∀ (appending : Appending) (count : Nat),
          (∀ (lines realIP : List String), lines.length = count →
            network.requestSourceIP proxies
                ⟨remoteAddr, appending.apply lines address, realIP⟩ =
              address) ↔
            appending.OneLine count) := by
  refine ⟨fun untrusted _ _ => requestSourceIP_of_untrusted untrusted,
    fun trusted address client appending count => ⟨fun seen => ?_, ?_⟩⟩
  · by_contra more
    have first := seen (List.replicate count "x y") [] List.length_replicate
    have noRealIP : trimText (Network.headerGet []) = "" := by decide
    have peer : network.peerIP remoteAddr = address := by
      simpa only [Network.requestSourceIP, trusted, headerGet_apply more,
        forwardedClientIP_gap, noRealIP, ne_eq, not_true_eq_false,
        false_and, if_false, Bool.true_eq_false] using first
    rw [peer, client.untrusted] at trusted
    cases trusted
  · rintro oneLine lines realIP rfl
    exact requestSourceIP_of_forwarded client trusted
      (forwardedClientIP_apply client appending oneLine)

/-! ### Addresses of four bytes -/

/-- One number of an address: up to 255, without a leading zero. -/
def parseByte (digits : List Char) : Option Nat :=
  let value := digits.foldl (fun sum digit =>
    10 * sum + (digit.toNat - '0'.toNat)) 0
  if digits = [] ∨ 255 < value ∨ 3 < digits.length ∨
      (digits.head? = some '0' ∧ digits ≠ ['0']) then none
  else some value

def isAddressRune (rune : Char) : Bool :=
  rune == '.' || (48 ≤ rune.toNat && rune.toNat ≤ 57)

/-- `net.ParseIP` for the dotted form. -/
def parseIPv4 (text : String) : Option Nat :=
  if text.toList.all isAddressRune = false then none
  else
    match (text.toList.splitOn '.').map parseByte with
    | [some a, some b, some c, some d] =>
      some (((a * 256 + b) * 256 + c) * 256 + d)
    | _ => none

/-- `net.ParseCIDR` for the dotted form. -/
def parseCIDRv4 (text : String) : Option (Nat → Bool) :=
  match text.toList.splitOn '/' with
  | [front, digits] =>
    match parseIPv4 (String.ofList front), parseByte digits with
    | some base, some bits =>
      if 32 < bits then none
      else some (fun address =>
        address / 2 ^ (32 - bits) == base / 2 ^ (32 - bits))
    | _, _ => none
  | _ => none

theorem parseIPv4_plain {address : Nat}
    (parsed : parseIPv4 text = some address) :
    text ≠ "" ∧
      ∀ rune ∈ text.toList, rune ≠ ',' ∧ isSpaceRune rune = false := by
  refine ⟨?_, fun rune member => ?_⟩
  · rintro rfl
    cases parsed
  · unfold parseIPv4 at parsed
    split at parsed
    · cases parsed
    · rename_i runes
      have digit := List.all_eq_true.mp (by simpa using runes) rune member
      simp only [isAddressRune, Bool.or_eq_true, beq_iff_eq,
        Bool.and_eq_true, decide_eq_true_eq] at digit
      rcases digit with rfl | range
      · decide
      · constructor
        · rintro rfl
          revert range
          decide
        · simp only [isSpaceRune, Bool.or_eq_false_iff,
            Bool.and_eq_false_iff, decide_eq_false_iff_not,
            beq_eq_false_iff_ne]
          omega

/-- A network of addresses of four bytes, with ports split off. -/
def ipv4Network : Network where
  Address := Nat
  parseIP := parseIPv4
  isIPv4 := fun _ => true
  parseCIDR := parseCIDRv4
  splitHostPort := fun text =>
    match text.toList.splitOn ':' with
    | [host, _] => some (String.ofList host)
    | _ => none
  plain := parseIPv4_plain

theorem clientAddress_ipv4 :
    ClientAddress ipv4Network "10.0.0.0/8" "203.0.113.9" :=
  ⟨by decide, by decide +kernel⟩

theorem ipTrusted_ipv4 :
    ipv4Network.ipTrusted "10.0.0.0/8"
      (ipv4Network.peerIP "10.1.2.3:5000") = true := by
  decide +kernel

/-- A proxy of a trusted network that appends to the only line. -/
theorem source_address_appended :
    ipv4Network.requestSourceIP "10.0.0.0/8"
        ⟨"10.1.2.3:5000", ["198.51.100.7, 203.0.113.9"], ["198.51.100.7"]⟩ =
      "203.0.113.9" :=
  ((source_address_iff ipv4Network "10.0.0.0/8" "10.1.2.3:5000").2
    ipTrusted_ipv4 "203.0.113.9" clientAddress_ipv4
    (.joined " " (by decide)) 1).mpr (Nat.le_refl 1) ["198.51.100.7"]
    ["198.51.100.7"] rfl

/-- With a line of its own for the proxy the client chooses what is seen. -/
theorem source_address_chosen :
    ClientAddress ipv4Network "10.0.0.0/8" "203.0.113.9" ∧
      ipv4Network.ipTrusted "10.0.0.0/8"
        (ipv4Network.peerIP "10.1.2.3:5000") = true ∧
      Appending.ownLine.apply ["198.51.100.7"] "203.0.113.9" =
        ["198.51.100.7", "203.0.113.9"] ∧
      ipv4Network.requestSourceIP "10.0.0.0/8"
          ⟨"10.1.2.3:5000", ["198.51.100.7", "203.0.113.9"], []⟩ =
        "198.51.100.7" :=
  ⟨clientAddress_ipv4, ipTrusted_ipv4, rfl, by decide +kernel⟩

end DataSafe.S3
