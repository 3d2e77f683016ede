import Fireball.Foundation.Ascii
import Fireball.Foundation.Failing
import Fireball.Tabs.Controller
import Fireball.Tabs.Runtime

/-!
# What the URL policy admits

A URL that `normalizeTabUrl` returns goes on as the argument of `encodeUrl`, in
hexadecimal over the control channel, and through `DecodeHex` and `ValidUrl`. The three
parsers on the way are `new URL`, the hexadecimal one and `g_uri_parse`.

* `decodeHex_hex`: the control channel gives back what was sent;
* `normalize_iff`: what the policy returns;
* `admitted_everywhere`: the URLs that pass all the way.
-/

namespace Fireball.Tabs

open Foundation

/-! ## The hexadecimal text -/

theorem hexValue_digit {n : Nat} (small : n < 16) :
    ∃ b, String.utf8EncodeChar (hexDigit n) = [b] ∧ hexValue b = some n.toUInt8 := by
  have all : ∀ n < 16, ∃ b ∈ String.utf8EncodeChar (hexDigit n),
      String.utf8EncodeChar (hexDigit n) = [b] ∧ hexValue b = some n.toUInt8 := by decide
  obtain ⟨b, -, one, value⟩ := all n small
  exact ⟨b, one, value⟩

theorem nibbles (b : UInt8) : (b.toNat / 16).toUInt8 <<< 4 ||| (b.toNat % 16).toUInt8 = b := by
  have all : ∀ b : Fin 256,
      (b.val / 16).toUInt8 <<< 4 ||| (b.val % 16).toUInt8 = UInt8.ofNat b.val := by decide +kernel
  have own := all ⟨b.toNat, b.toNat_lt⟩
  rwa [UInt8.ofNat_toNat] at own

theorem utf8_hex_cons (b : UInt8) (rest : Bytes) : ∃ high low,
    utf8 (hex (b :: rest)) = high :: low :: utf8 (hex rest) ∧
      hexValue high = some (b.toNat / 16).toUInt8 ∧ hexValue low = some (b.toNat % 16).toUInt8 := by
  have below : b.toNat < 256 := b.toNat_lt
  obtain ⟨high, one, highValue⟩ := hexValue_digit (n := b.toNat / 16) (by omega)
  obtain ⟨low, other, lowValue⟩ := hexValue_digit (n := b.toNat % 16) (by omega)
  refine ⟨high, low, ?_, highValue, lowValue⟩
  simp only [hex, List.flatMap_cons, utf8_ofList, List.flatMap_append, List.flatMap_nil, one, other]
  rfl

theorem decodePairs_hex {b : Bytes} (plain : 0 ∉ b) : decodePairs (utf8 (hex b)) = some b := by
  induction b with
  | nil => decide
  | cons first rest ih =>
    obtain ⟨high, low, eq, highValue, lowValue⟩ := utf8_hex_cons first rest
    have nonzero : first ≠ 0 := fun same => plain (same ▸ List.mem_cons_self)
    have whole := nibbles first
    rw [eq, decodePairs, highValue, lowValue]
    simp only [Option.bind_eq_bind, Option.bind_some, whole, if_neg nonzero,
      ih fun mem => plain (List.mem_cons_of_mem _ mem)]
    rfl

theorem length_hex (b : Bytes) : (utf8 (hex b)).length = 2 * b.length := by
  induction b with
  | nil => decide
  | cons first rest ih =>
    obtain ⟨high, low, eq, -⟩ := utf8_hex_cons first rest
    rw [eq, List.length_cons, List.length_cons, ih, List.length_cons]
    omega

/-- The control channel gives back what was sent, within its limit. -/
theorem decodeHex_hex {b : Bytes} (plain : 0 ∉ b) (some : b ≠ []) (fits : b.length ≤ kMaximumUrlBytes) :
    decodeHex (utf8 (hex b)) = .some b := by
  have length := length_hex b
  have positive : 0 < b.length := List.length_pos_iff.mpr some
  have nonempty : utf8 (hex b) ≠ [] := by
    rw [← List.length_pos_iff, length]
    omega
  rw [decodeHex, if_neg (by simp only [nonempty, length, false_or]; omega), decodePairs_hex plain]

/-! ## Percent escapes -/

def xdigitValue (b : UInt8) : Option UInt8 :=
  if 48 ≤ b ∧ b ≤ 57 then some (b - 48)
  else if 97 ≤ b ∧ b ≤ 102 then some (b - 97 + 10)
  else if 65 ≤ b ∧ b ≤ 70 then some (b - 65 + 10)
  else none

/-- Every `%` has to be followed by two digits. -/
def percentDecode : Bytes → Option Bytes
  | [] => some []
  | b :: rest =>
    if b = '%'.toUInt8 then match rest with
      | high :: low :: rest => do
        let high ← xdigitValue high
        let low ← xdigitValue low
        return (high <<< 4 ||| low) :: (← percentDecode rest)
      | _ => none
    else (percentDecode rest).map (b :: ·)

def isUtf8 (b : Bytes) : Bool := (String.fromUTF8? ⟨b.toArray⟩).isSome

/-- The escapes are complete, and what they stand for is UTF-8 text without a NUL. -/
def wellEscaped (b : Bytes) : Bool :=
  match percentDecode b with
  | some decoded => decoded.all (· ≠ 0) && isUtf8 decoded
  | none => false

example : wellEscaped (utf8 "http://example.test/%C3%A9") = true := by decide

/-! ## The three parsers -/

/-- The policy on a parsed URL. -/
structure Permitted (url : Url) : Prop where
  protocol : url.protocol ∈ ["http:", "https:"]
  username : url.username = ""
  password : url.password = ""
  hostname : url.hostname ≠ ""

/-- What is documented of `new URL`: serialising a serialised URL changes nothing, the
serialisation begins with the scheme, and that of a permitted URL is printable ASCII. The
path of other schemes may keep its blanks. -/
structure Serializes (parseUrl : String → Option Url) : Prop where
  stable : ∀ value url, parseUrl value = some url → parseUrl url.href = some url
  scheme : ∀ value url, parseUrl value = some url → ∃ rest, url.href = url.protocol ++ rest
  printable : ∀ value url, parseUrl value = some url → Permitted url →
    ∀ c ∈ url.href.toList, isPrintable c = true

/-- What is documented of `g_uri_parse` without flags, on a permitted URL: it decodes the
escapes, rejects those that are not complete or not UTF-8, and finds the parts. -/
structure ParsesUris (parseUrl : String → Option Url) (parseUri : Bytes → Option GUri) : Prop where
  strict : ∀ value url, parseUrl value = some url → Permitted url → wellEscaped (utf8 url.href) = false →
    parseUri (utf8 url.href) = none
  parts : ∀ value url, parseUrl value = some url → Permitted url → wellEscaped (utf8 url.href) = true →
    ∃ uri scheme host, parseUri (utf8 url.href) = some uri ∧ uri.scheme = some scheme ∧
      scheme ++ utf8 ":" = utf8 url.protocol ∧ uri.host = some host ∧ host ≠ [] ∧ uri.userinfo = none

/-- A normalised URL passes the rest of the way. -/
structure AcceptedOn (parseUrl : String → Option Url) (parseUri : Bytes → Option GUri) (r : String) : Prop where
  encodes : ∃ text, encodeUrl parseUrl r = .ok text ∧ decodeHex (utf8 text) = some (utf8 r)
  valid : validUrl parseUri (utf8 r) = true

/-- The serialisation of the argument is short enough and well escaped. The home page always is. -/
def Passes (parseUrl : String → Option Url) : UrlValue → Prop
  | .text value => value = publicHome ∨ value = internalHome ∨ ∀ url, parseUrl value = some url →
      (utf8 url.href).length ≤ maximumUrlBytes ∧ wellEscaped (utf8 url.href) = true
  | _ => True

section
variable {parseUrl : String → Option Url} {parseUri : Bytes → Option GUri} {r : String}

/-- What the policy returns. -/
theorem normalize_iff {value : String} :
    normalizeTabUrl parseUrl (.text value) = .ok r ↔
      ((value = publicHome ∨ value = internalHome) ∧ r = internalHome) ∨
      (¬ (value = publicHome ∨ value = internalHome) ∧ (utf8 value).length ≤ maximumUrlBytes ∧
        ∃ url, parseUrl value = some url ∧ Permitted url ∧ r = url.href) := by
  rw [normalizeTabUrl]
  split
  · rename_i home
    simp [home, eq_comm]
  · rename_i away
    simp only [away, false_and, not_false_eq_true, true_and, false_or]
    split
    · rename_i long
      simp [Nat.not_le.mpr long]
    · rename_i short
      simp only [Nat.le_of_not_lt short, true_and]
      cases parsed : parseUrl value with
      | none => simp
      | some url =>
        simp only [Option.some.injEq, exists_eq_left']
        split
        · rename_i forbidden
          simp only [reduceCtorEq, false_iff, not_and]
          rintro ⟨protocol, username, password, hostname⟩
          simp [protocol, username, password, hostname] at forbidden
        · rename_i permitted
          simp only [not_or, ne_eq, not_not] at permitted
          obtain ⟨protocol, username, password, hostname⟩ := permitted
          simp only [Except.ok.injEq, eq_comm (a := r)]
          exact ⟨fun same => ⟨⟨protocol, username, password, hostname⟩, same⟩, And.right⟩

theorem utf8_printable {c : Char} (printable : isPrintable c = true) : ∃ b, String.utf8EncodeChar c = [b] ∧ b ≠ 0 := by
  simp only [isPrintable, Bool.and_eq_true, decide_eq_true_eq] at printable
  have positive : 0x21 ≤ c.val.toNat := printable.1
  have small : c.val.toNat ≤ 0x7e := printable.2
  have one : c.utf8Size = 1 := by
    have ascii : c.val ≤ 0x7f := UInt32.le_iff_toNat_le.mpr (Nat.le_succ_of_le small)
    simp [Char.utf8Size, ascii]
  refine ⟨_, String.utf8EncodeChar_eq_singleton one, fun zero => ?_⟩
  have value := congrArg UInt8.toNat zero
  have same : c.val.toNat % 256 = c.val.toNat := Nat.mod_eq_of_lt (by omega)
  rw [UInt32.toNat_toUInt8, same, UInt8.toNat_zero] at value
  omega

theorem printable_plain {s : String} (printable : ∀ c ∈ s.toList, isPrintable c = true) : 0 ∉ utf8 s := by
  rw [← s.ofList_toList, utf8_ofList]
  intro mem
  obtain ⟨c, mem, zero⟩ := List.mem_flatMap.mp mem
  obtain ⟨b, one, nonzero⟩ := utf8_printable (printable c mem)
  rw [one] at zero
  exact nonzero (List.mem_singleton.mp zero).symm

theorem encode_home : AcceptedOn parseUrl parseUri internalHome := by
  have home : normalizeTabUrl parseUrl (.text internalHome) = .ok internalHome :=
    normalize_iff.mpr (.inl ⟨.inr rfl, rfl⟩)
  refine ⟨⟨hex (utf8 internalHome), ?_, decodeHex_hex (by decide) (by decide) (by decide)⟩,
    ?_⟩
  · rw [encodeUrl, home]
    rfl
  · have short : ¬ (utf8 internalHome = [] ∨ (utf8 internalHome).length > kMaximumUrlBytes) := by decide
    have home : utf8 internalHome = kInternalHome := rfl
    rw [validUrl, if_neg short, if_pos home]

/-- No permitted URL is a home page. -/
theorem permitted_away {value : String} {url : Url} (std : Serializes parseUrl) (parsed : parseUrl value = some url)
    (permitted : Permitted url) : ¬ (url.href = publicHome ∨ url.href = internalHome) := by
  obtain ⟨rest, eq⟩ := std.scheme value url parsed
  rw [eq]
  have apart : ∀ {home : String}, home.toList.head? ≠ some 'h' → url.protocol ++ rest ≠ home := by
    rintro home other rfl
    rw [String.toList_append] at other
    rcases List.mem_pair.mp permitted.protocol with http | https
    · rw [http] at other
      exact other rfl
    · rw [https] at other
      exact other rfl
  rintro (same | same)
  · exact apart (by decide) same
  · exact apart (by decide) same

theorem accepted_iff {value : String} {url : Url} (std : Serializes parseUrl) (glib : ParsesUris parseUrl parseUri)
    (parsed : parseUrl value = some url) (permitted : Permitted url) :
    AcceptedOn parseUrl parseUri url.href ↔
      (utf8 url.href).length ≤ maximumUrlBytes ∧ wellEscaped (utf8 url.href) = true := by
  have away := permitted_away std parsed permitted
  have notHome : utf8 url.href ≠ kInternalHome := fun same => away (.inr (utf8_inj.mp same))
  constructor
  · rintro ⟨⟨text, encoded, -⟩, valid⟩
    constructor
    · rw [encodeUrl] at encoded
      cases normal : normalizeTabUrl parseUrl (.text url.href) with
      | error e =>
        rw [normal] at encoded
        cases encoded
      | ok again =>
        rcases normalize_iff.mp normal with ⟨home, -⟩ | ⟨-, short, -⟩
        · exact absurd home away
        · exact short
    · by_contra escaped
      rw [validUrl, if_neg notHome, glib.strict value url parsed permitted (by simpa using escaped)] at valid
      split at valid <;> cases valid
  · rintro ⟨short, escaped⟩
    have normal : normalizeTabUrl parseUrl (.text url.href) = .ok url.href :=
      normalize_iff.mpr (.inr ⟨away, short, url, std.stable value url parsed, permitted, rfl⟩)
    have nonempty : utf8 url.href ≠ [] := by
      obtain ⟨rest, eq⟩ := std.scheme value url parsed
      rw [eq, utf8_append]
      rcases List.mem_pair.mp permitted.protocol with http | https
      · rw [http]
        exact List.append_ne_nil_of_left_ne_nil (by decide) _
      · rw [https]
        exact List.append_ne_nil_of_left_ne_nil (by decide) _
    refine ⟨⟨hex (utf8 url.href), ?_, decodeHex_hex (printable_plain (std.printable value url parsed permitted)) nonempty short⟩, ?_⟩
    · rw [encodeUrl, normal]
      rfl
    · obtain ⟨uri, scheme, host, found, own, protocol, there, named, bare⟩ :=
        glib.parts value url parsed permitted escaped
      have known : scheme = utf8 "http" ∨ scheme = utf8 "https" := by
        rcases List.mem_pair.mp permitted.protocol with http | https
        · rw [http, show "http:" = "http" ++ ":" from rfl, utf8_append] at protocol
          exact .inl (List.append_cancel_right protocol)
        · rw [https, show "https:" = "https" ++ ":" from rfl, utf8_append] at protocol
          exact .inr (List.append_cancel_right protocol)
      rw [validUrl, if_neg (by simp only [nonempty, false_or]; exact Nat.not_lt.mpr short), if_neg notHome, found]
      simp [own, there, named, bare, known]

/-- **What the policy admits** passes all the way exactly when its serialisation is short
enough and well escaped. -/
theorem admitted_everywhere (std : Serializes parseUrl) (glib : ParsesUris parseUrl parseUri) (v : UrlValue)
    (admitted : normalizeTabUrl parseUrl v = .ok r) :
    AcceptedOn parseUrl parseUri r ↔ Passes parseUrl v := by
  cases v with
  | undefined =>
    cases admitted
    exact iff_of_true encode_home trivial
  | other => cases admitted
  | text value =>
    rcases normalize_iff.mp admitted with ⟨home, rfl⟩ | ⟨away, -, url, parsed, permitted, rfl⟩
    · exact iff_of_true encode_home (home.elim .inl fun home => .inr (.inl home))
    · rw [accepted_iff std glib parsed permitted]
      simp only [not_or] at away
      simp [Passes, away, parsed]

end

/-! ## The start URL -/

def newStartUrl (parseUrl : String → Option Url) (value : String) : Except String Url :=
  match parseUrl value with
  | some parsed => .ok parsed
  | none => .error "FIREBALL_START_URL must be an absolute URL"

/-- `validateStartUrl` of `session/supervisor.mjs`. -/
def validateStartUrl (parseUrl : String → Option Url) (value : String) : Except String String := do
  let parsed ← newStartUrl parseUrl value
  check (parsed.username = "" && parsed.password = "") "FIREBALL_START_URL must not contain credentials"
  if parsed.protocol = "file:" then
    check (parsed.href = internalHome) "FIREBALL_START_URL may only use the packaged file route"
    .ok parsed.href
  else
    check (parsed.protocol ∈ ["http:", "https:"]) "FIREBALL_START_URL scheme is unsupported"
    .ok parsed.href

/-- What a start URL is turned into. -/
structure StartUrl (parseUrl : String → Option Url) (value startUrl : String) : Prop where
  parsed : ∃ url, parseUrl value = some url ∧ url.username = "" ∧ url.password = "" ∧ url.href = startUrl ∧
    (startUrl = internalHome ∨ url.protocol ∈ ["http:", "https:"])

theorem validateStartUrl_ok {parseUrl : String → Option Url} {value startUrl : String}
    (h : validateStartUrl parseUrl value = .ok startUrl) : StartUrl parseUrl value startUrl := by
  unfold validateStartUrl at h
  obtain ⟨url, found, h⟩ := bind_ok.mp h
  have parsed : parseUrl value = some url := by
    unfold newStartUrl at found
    split at found
    · rename_i there
      cases found
      exact there
    · cases found
  obtain ⟨_, bare, h⟩ := bind_ok.mp h
  simp only [check_ok, Bool.and_eq_true, decide_eq_true_eq] at bare
  split at h
  · obtain ⟨_, home, h⟩ := bind_ok.mp h
    rw [check_ok, decide_eq_true_eq] at home
    cases h
    exact ⟨url, parsed, bare.1, bare.2, rfl, .inl home⟩
  · obtain ⟨_, scheme, h⟩ := bind_ok.mp h
    rw [check_ok, decide_eq_true_eq] at scheme
    cases h
    exact ⟨url, parsed, bare.1, bare.2, rfl, .inr scheme⟩

/-! ## Two URLs that are refused further on -/

/-- How a character of a path is serialised that needs nothing else. -/
def serializeChar (c : Char) : List Char :=
  if isPrintable c then [c] else (String.utf8EncodeChar c).flatMap percentEncode

def sampleOrigin : String := "http://example.test/"

/-- `new URL` on the paths of one origin. -/
def sampleUrls (value : String) : Option Url :=
  if sampleOrigin.toList.isPrefixOf value.toList then
    some ⟨String.ofList (value.toList.flatMap serializeChar), "http:", "", "", "example.test", "", "", ""⟩
  else none

/-- `g_uri_parse` on these URLs. -/
def sampleUris (value : Bytes) : Option GUri :=
  if wellEscaped value then some ⟨some (utf8 "http"), some (utf8 "example.test"), none⟩ else none

theorem percentEncode_printable {b : UInt8} : ∀ c ∈ percentEncode b, isPrintable c = true := by
  have all : ∀ b : Fin 256, (percentEncode (UInt8.ofNat b.val)).all isPrintable = true := by decide +kernel
  have own := all ⟨b.toNat, b.toNat_lt⟩
  rw [UInt8.ofNat_toNat] at own
  exact List.all_eq_true.mp own

theorem serialize_printable {l : List Char} : ∀ c ∈ l.flatMap serializeChar, isPrintable c = true := by
  intro c mem
  obtain ⟨first, -, mem⟩ := List.mem_flatMap.mp mem
  rw [serializeChar] at mem
  split at mem
  · cases List.mem_singleton.mp mem
    assumption
  · obtain ⟨b, -, mem⟩ := List.mem_flatMap.mp mem
    exact percentEncode_printable c mem

theorem serialize_same {l : List Char} (printable : ∀ c ∈ l, isPrintable c = true) : l.flatMap serializeChar = l := by
  induction l with
  | nil => rfl
  | cons c rest ih =>
    rw [List.flatMap_cons, serializeChar, if_pos (printable c List.mem_cons_self),
      ih fun c mem => printable c (List.mem_cons_of_mem _ mem)]
    rfl

/-- A URL of the origin, with the path after it. -/
theorem sampleUrls_origin (path : List Char) : sampleUrls (String.ofList (sampleOrigin.toList ++ path)) =
    some ⟨String.ofList (sampleOrigin.toList ++ path.flatMap serializeChar), "http:", "", "", "example.test",
      "", "", ""⟩ := by
  have origin : sampleOrigin.toList.flatMap serializeChar = sampleOrigin.toList :=
    serialize_same (List.all_eq_true.mp (by decide))
  rw [sampleUrls, String.toList_ofList, if_pos (List.isPrefixOf_iff_prefix.mpr (List.prefix_append ..)),
    List.flatMap_append, origin]

theorem sampleUrls_some {value : String} {url : Url} (parsed : sampleUrls value = some url) :
    ∃ path, value = String.ofList (sampleOrigin.toList ++ path) ∧
      url = ⟨String.ofList (sampleOrigin.toList ++ path.flatMap serializeChar), "http:", "", "", "example.test",
        "", "", ""⟩ := by
  have split : ∃ path, sampleOrigin.toList ++ path = value.toList := by
    rw [sampleUrls] at parsed
    split at parsed
    · rename_i origin
      exact List.isPrefixOf_iff_prefix.mp origin
    · cases parsed
  obtain ⟨path, eq⟩ := split
  have own : value = String.ofList (sampleOrigin.toList ++ path) := by rw [eq, String.ofList_toList]
  rw [own, sampleUrls_origin] at parsed
  cases parsed
  exact ⟨path, own, rfl⟩

theorem sampleUrls_serializes : Serializes sampleUrls where
  stable value url parsed := by
    obtain ⟨path, -, rfl⟩ := sampleUrls_some parsed
    rw [sampleUrls_origin, serialize_same serialize_printable]
  scheme value url parsed := by
    obtain ⟨path, -, rfl⟩ := sampleUrls_some parsed
    refine ⟨String.ofList ("//example.test/".toList ++ path.flatMap serializeChar), ?_⟩
    rw [← String.toList_inj, String.toList_append]
    simp only [String.toList_ofList, ← List.append_assoc]
    rfl
  printable value url parsed _ := by
    obtain ⟨path, -, rfl⟩ := sampleUrls_some parsed
    intro c mem
    rcases List.mem_append.mp (String.toList_ofList ▸ mem) with mem | mem
    · exact List.all_eq_true.mp (by decide) c mem
    · exact serialize_printable c mem

theorem sampleUris_parses : ParsesUris sampleUrls sampleUris where
  strict value url _ _ escaped := by rw [sampleUris, if_neg (by simp [escaped])]
  parts value url parsed _ escaped := by
    obtain ⟨path, -, rfl⟩ := sampleUrls_some parsed
    rw [sampleUris, if_pos escaped]
    have protocol : utf8 "http" ++ utf8 ":" = utf8 "http:" := by decide
    exact ⟨_, _, _, rfl, rfl, protocol, rfl, by decide, rfl⟩

theorem admitted_everywhere_plain :
    AcceptedOn sampleUrls sampleUris "http://example.test/" ↔ Passes sampleUrls (.text "http://example.test/") :=
  admitted_everywhere sampleUrls_serializes sampleUris_parses _ (by decide)

/-- A path of `n` characters that are serialised with six bytes each. -/
def widePath (n : Nat) : String := String.ofList (sampleOrigin.toList ++ List.replicate n 'é')

theorem length_wide (n : Nat) (part : List Char) :
    (utf8 (String.ofList (sampleOrigin.toList ++ (List.replicate n part).flatten))).length =
      20 + n * (part.flatMap String.utf8EncodeChar).length := by
  have origin : (sampleOrigin.toList.flatMap String.utf8EncodeChar).length = 20 := by decide
  rw [utf8_ofList, List.flatMap_append, List.length_append, origin, ← List.flatMap_id', List.flatMap_assoc,
    List.length_flatMap]
  simp

/-- A stray `%` is refused by the native runtime, and a URL that grows over the limit
already by the driver. -/
theorem refused_further_on :
    Serializes sampleUrls ∧ ParsesUris sampleUrls sampleUris ∧
    (normalizeTabUrl sampleUrls (.text "http://example.test/%") = .ok "http://example.test/%" ∧
      validUrl sampleUris (utf8 "http://example.test/%") = false) ∧
    ∃ r, normalizeTabUrl sampleUrls (.text (widePath 2000)) = .ok r ∧
      encodeUrl sampleUrls r = .error tabUrlInvalid := by
  refine ⟨sampleUrls_serializes, sampleUris_parses, ⟨by decide, by decide⟩, ?_⟩
  have apart : ∀ path : List Char, ¬ (String.ofList (sampleOrigin.toList ++ path) = publicHome ∨
      String.ofList (sampleOrigin.toList ++ path) = internalHome) := by
    have first : ∀ home ∈ [publicHome, internalHome], some 'h' ≠ home.toList.head? := by decide
    have other : ∀ home ∈ [publicHome, internalHome], ∀ path,
        String.ofList (sampleOrigin.toList ++ path) ≠ home := by
      rintro _ mem path rfl
      refine first _ mem ?_
      rw [String.toList_ofList]
      rfl
    rintro path (same | same)
    · exact other _ (by simp) path same
    · exact other _ (by simp) path same
  have short : (utf8 (widePath 2000)).length ≤ maximumUrlBytes := by
    have length := length_wide 2000 ['é']
    rw [List.flatten_replicate_singleton] at length
    rw [widePath, length]
    decide
  have long : ¬ (utf8 (String.ofList (sampleOrigin.toList ++
      (List.replicate 2000 'é').flatMap serializeChar))).length ≤ maximumUrlBytes := by
    rw [List.flatMap_def, List.map_replicate, length_wide]
    decide
  refine ⟨_, normalize_iff.mpr (.inr ⟨apart _, short, _, sampleUrls_origin _, ⟨by decide, rfl, rfl, by decide⟩, rfl⟩),
    ?_⟩
  rw [encodeUrl, normalizeTabUrl, if_neg (apart _), if_pos (Nat.lt_of_not_le long)]
  rfl

end Fireball.Tabs
