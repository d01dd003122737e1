import OpenDiameter.Parser.Text

/-! The text of a DiameterURI is read back exactly for the scheme `aaa`, TCP and Diameter. -/

set_option autoImplicit false

namespace OpenDiameter.Parser

open Foundation

section Host

theorem solid_alpha {b : UInt8} (alpha : isAlpha b = true) : isBlank b = false ∧ b < 128 := by
  simp only [isAlpha, isBlank, Bool.or_eq_true, Bool.and_eq_true, decide_eq_true_eq, Bool.or_eq_false_iff,
    Bool.and_eq_false_iff, beq_eq_false_iff_ne, decide_eq_false_iff_not, UInt8.le_iff_toNat_le, UInt8.lt_iff_toNat_lt,
    ne_eq, ← UInt8.toNat_inj, UInt8.reduceToNat] at alpha ⊢
  omega

theorem solid_alnum {b : UInt8} (alnum : (isAlpha b || isDigit b) = true) : isBlank b = false ∧ b < 128 := by
  rcases Bool.or_eq_true_iff.mp alnum with alpha | digit
  · exact solid_alpha alpha
  · exact isDigit_solid digit

namespace DiamuriGrammar

theorem letter_solid : (alnumP <|> chP '-' : Rule DiameterUri).Solid :=
  .orElse (.one fun _ => solid_alnum) (solid_chP (by decide) (by decide))

theorem label_solid : label.Solid :=
  .orElse (.andThen (.one fun _ => solid_alpha) (.many letter_solid))
    (.andThen (.one fun _ => isDigit_solid) (Rule.Solid.andThen letter_solid (.many letter_solid)).loose)

theorem labels_solid : (chP '.' >> label).Solid :=
  .andThen (solid_chP (by decide) (by decide)) label_solid.loose

theorem host_solid : (label >> (chP '.' >> label).many).Solid := .andThen label_solid (.many labels_solid)

theorem host_silent : (label >> (chP '.' >> label).many).Silent := by
  have letter : (alnumP <|> chP '-' : Rule DiameterUri).Silent := .orElse (.one _) (.one _)
  have label : label.Silent := .orElse (.andThen (.one _) (.many letter)) (.andThen (.one _) (.andThen letter (.many letter)))
  exact .andThen label (.many (.andThen (.one _) label))

theorem letter_stops : (alnumP <|> chP '-' : Rule DiameterUri).Stops 58 :=
  .orElse (.one rfl rfl) (.one rfl rfl)

theorem label_stops : label.Stops 58 :=
  .orElse (.andThen (.one rfl rfl) (.many letter_solid letter_stops))
    (.andThen (.one rfl rfl) (.andThen letter_stops (.many letter_solid letter_stops)))

theorem host_stops : (label >> (chP '.' >> label).many).Stops 58 :=
  .andThen label_stops (.many labels_solid (.andThen (.one rfl rfl) label_stops))

end DiamuriGrammar

def FqdnAccepted (host : Octets) : Prop := (DiamuriGrammar.fqdn.full host DiamuriGrammar.defaults).isSome = true

instance (host : Octets) : Decidable (FqdnAccepted host) := inferInstanceAs (Decidable (_ = true))

def Trimmed (text : Octets) : Prop :=
  (∀ b, text.head? = some b → isBlank b = false) ∧ ∀ b, text.getLast? = some b → isBlank b = false

/-- The rule reads an accepted host name up to the colon, and assigns it without the blanks
at its ends. -/
theorem fqdn_parse {host : Octets} (accepted : FqdnAccepted host) :
    ∃ used b rest, skip host = used ++ b :: rest ∧ isBlank b = false ∧ skip rest = [] ∧ IsAscii host ∧
      ∀ tail, DiamuriGrammar.fqdn.parse (host ++ 58 :: tail) DiamuriGrammar.defaults =
        (some (rest ++ 58 :: tail), { DiamuriGrammar.defaults with fqdn := used ++ [b] }) := by
  unfold FqdnAccepted Rule.full DiamuriGrammar.fqdn at accepted
  rw [Rule.parse_act] at accepted
  cases inside : (DiamuriGrammar.label >> (chP '.' >> DiamuriGrammar.label).many).parse (skip host)
      DiamuriGrammar.defaults with
  | mk left s =>
    rw [inside] at accepted
    cases left with
    | none => cases accepted
    | some rest =>
      dsimp only at accepted
      have same : s = DiamuriGrammar.defaults := by
        have silent := DiamuriGrammar.host_silent (skip host) DiamuriGrammar.defaults
        rwa [inside] at silent
      subst same
      have taken := DiamuriGrammar.host_solid (skip host) DiamuriGrammar.defaults rest (by rw [inside])
      have ending : skip rest = [] := by
        by_contra more
        rw [if_neg more] at accepted
        cases accepted
      have ascii : IsAscii host := by
        obtain ⟨before, last, rfl, -, small, early⟩ := taken.of_skip
        refine IsAscii.append early ?_
        intro c member
        rcases List.mem_cons.mp member with rfl | inRest
        · exact small
        · exact isBlank_lt (List.dropWhile_eq_nil_iff.mp ending c inRest)
      obtain ⟨used, b, parts, solid, -⟩ := taken
      refine ⟨used, b, rest, parts, solid, ending, ascii, ?_⟩
      intro tail
      have stopped := DiamuriGrammar.host_stops (skip host) tail DiamuriGrammar.defaults
      rw [inside] at stopped
      have length : (skip host ++ 58 :: tail).length - (rest ++ 58 :: tail).length = used.length + 1 := by
        rw [parts]
        simp
        omega
      have text : (skip host ++ 58 :: tail).take (used.length + 1) = used ++ [b] := by
        rw [parts]
        simp [List.take_append]
      have skipped : skip (host ++ 58 :: tail) = skip host ++ 58 :: tail := skip_append (by decide) host tail
      unfold DiamuriGrammar.fqdn
      rw [Rule.parse_act, skipped, stopped]
      dsimp only [Option.map_some]
      rw [length, text]

theorem trimmed_iff {host used rest : Octets} {b : UInt8} (parts : skip host = used ++ b :: rest)
    (solid : isBlank b = false) (ending : skip rest = []) : Trimmed host ↔ used ++ [b] = host := by
  constructor
  · rintro ⟨first, last⟩
    have whole : skip host = host := by
      cases host with
      | nil => rfl
      | cons c host => exact skip_cons (first c rfl) host
    rw [whole] at parts
    cases rest with
    | nil => exact parts.symm
    | cons c rest =>
      have blanks := List.dropWhile_eq_nil_iff.mp ending
      have inRest := List.getLast_mem (List.cons_ne_nil c rest)
      have final : host.getLast? = some ((c :: rest).getLast (List.cons_ne_nil c rest)) := by
        rw [parts, List.getLast?_append, List.getLast?_cons_cons, List.getLast?_eq_some_getLast (List.cons_ne_nil c rest)]
        rfl
      have sound := last _ final
      rw [blanks _ inRest] at sound
      cases sound
  · intro same
    have length : (skip host).length ≤ host.length := List.length_dropWhile_le _ _
    have shape : rest = [] := by
      rw [parts, ← same] at length
      simpa using length
    subst shape
    rw [← same]
    refine ⟨?_, ?_⟩
    · intro c head
      by_contra blank
      have blank' : isBlank c = true := by simpa using blank
      obtain ⟨tail, rfl⟩ := List.head?_eq_some_iff.mp (same ▸ head)
      rw [skip_cons_blank blank'] at parts
      have shorter : (skip tail).length ≤ tail.length := List.length_dropWhile_le _ _
      rw [parts, same] at shorter
      simp at shorter
    · intro c last
      rw [List.getLast?_concat] at last
      cases last
      exact solid

end Host

section RoundTrip

/-- `DiamuriParser::parseAppToRaw`. -/
def writeDiamUri (uri : DiameterUri) : Parse Octets := uri.print >>= writeUtf8

def UriScheme.text : UriScheme → Octets
  | .aaa => ascii "aaa://"
  | .aaas => ascii "aaas://"

def UriTransport.text (transport : UriTransport) : Octets := if transport = .tcp then ascii "tcp" else ascii "sctp"

def UriProtocol.text (protocol : UriProtocol) : Octets :=
  if protocol = .diameter then ascii "diameter" else ascii "radius"

theorem print_eq {uri : DiameterUri} {port : UInt16} (assigned : uri.port = some port) :
    uri.print = .returned (uri.scheme.text ++ (uri.fqdn ++ 58 :: (decimal port.toNat ++
      (ascii ";transport=" ++ (uri.transport.text ++ (ascii ";protocol=" ++ uri.protocol.text)))))) := by
  have colon : ascii ":" = [58] := rfl
  unfold DiameterUri.print
  rw [assigned, colon]
  cases uri.scheme <;> simp [UriScheme.text, UriTransport.text, UriProtocol.text]

theorem signedNumeral_decimal {n : Nat} (small : n < 2 ^ 16) {after : Octets} (stop : NoDigit after) :
    signedNumeral (decimal n ++ after) = some ((n : Int), after) := by
  have digits := decimal_digits n
  have value := digitsValue_decimal n
  have fits : (decimal n).length ≤ (decimal n ++ after).length := by simp
  have read := numeral_append (decimal_ne_nil n) digits stop fits (by omega : digitsValue (decimal n) ≤ 2 ^ 31 - 1)
  rw [value] at read
  unfold signedNumeral
  cases text : decimal n with
  | nil => exact absurd text (decimal_ne_nil n)
  | cons b rest =>
    have digit := digits b (by rw [text]; exact List.mem_cons_self)
    rw [text] at read
    rw [List.cons_append] at read ⊢
    dsimp only
    rw [if_neg (by rintro rfl; cases digit), if_neg (by rintro rfl; cases digit), read]
    rfl

namespace DiamuriGrammar

theorem scheme_aaa (tail : Octets) (uri : DiameterUri) (aaa : uri.scheme = .aaa) :
    ((strP "aaa" <|> strP "aaas").act schemeAction).parse (ascii "aaa://" ++ tail) uri = (some (ascii "://" ++ tail), uri) := by
  rw [@Rule.act_text _ _ _ uri uri schemeAction (ascii "aaa") (ascii "://" ++ tail) rfl rfl]
  simp [schemeAction, ← aaa]

theorem port_decimal (n : UInt16) {blanks : Octets} (ending : skip blanks = []) {after : Octets} (stop : NoDigit after)
    (uri : DiameterUri) :
    port.parse (blanks ++ 58 :: (decimal n.toNat ++ after)) uri = (some after, { uri with port := some n }) := by
  have colon : (strP ":" : Rule DiameterUri).parse (blanks ++ 58 :: (decimal n.toNat ++ after)) uri =
      (some (decimal n.toNat ++ after), uri) := by
    unfold strP Rule.str
    dsimp only
    rw [skip_append (by decide), ending]
    rfl
  have solid : skip (decimal n.toNat ++ after) = decimal n.toNat ++ after := by
    cases text : decimal n.toNat with
    | nil => exact absurd text (decimal_ne_nil _)
    | cons b rest =>
      have digit := decimal_digits n.toNat b (by rw [text]; exact List.mem_cons_self)
      exact skip_cons (isDigit_solid digit).1 _
  unfold port
  rw [Rule.andThen_match colon]
  unfold intP Rule.token
  dsimp only
  rw [solid, signedNumeral_decimal n.toNat_lt stop]
  have narrowed : UInt16.ofInt (n.toNat : Int) = n := by
    have small := n.toNat_lt
    have value : ((n.toNat : Int) % 2 ^ 16).toNat = n.toNat := by omega
    rw [UInt16.ofInt, value, UInt16.ofNat_toNat]
  simp [narrowed]

theorem transport_protocol (transport : UriTransport) (protocol : UriProtocol) (uri : DiameterUri) :
    (DiamuriGrammar.transport.maybe >> DiamuriGrammar.protocol.maybe).parse
        (ascii ";transport=" ++ (transport.text ++ (ascii ";protocol=" ++ protocol.text))) uri =
      (some [], { uri with transport := if protocol = .diameter then .tcp else .sctp }) := by
  cases transport <;> cases protocol <;> rfl

end DiamuriGrammar

/-- The parser reads back the host name without blanks at its ends and the port; the
scheme must be `aaa`, and the transport comes from the protocol. -/
theorem diamuri_print {uri : DiameterUri} {port : UInt16} (assigned : uri.port = some port) (aaa : uri.scheme = .aaa)
    {used rest : Octets} {b : UInt8} (ending : skip rest = [])
    (host : ∀ tail, DiamuriGrammar.fqdn.parse (uri.fqdn ++ 58 :: tail) DiamuriGrammar.defaults =
      (some (rest ++ 58 :: tail), { DiamuriGrammar.defaults with fqdn := used ++ [b] })) {text : Octets}
    (printed : uri.print = .returned text) :
    spirit.diamuri text = some
      { fqdn := used ++ [b], port := some port, protocol := .diameter, scheme := .aaa
        transport := if uri.protocol = .diameter then .tcp else .sctp } := by
  rw [print_eq assigned, aaa] at printed
  cases printed
  have separator (tail : Octets) (uri : DiameterUri) :
      (strP "://" : Rule DiameterUri).parse (ascii "://" ++ tail) uri = (some tail, uri) := rfl
  have semicolon : NoDigit (ascii ";transport=" ++ (uri.transport.text ++ (ascii ";protocol=" ++ uri.protocol.text))) := by
    rintro c ⟨⟩
    rfl
  unfold spirit Rule.full DiamuriGrammar.diameterUri
  dsimp only
  rw [UriScheme.text, Rule.andThen_match (DiamuriGrammar.scheme_aaa _ _ rfl), Rule.andThen_match (separator _ _),
    Rule.andThen_match (host _), Rule.andThen_match (Rule.maybe_match (DiamuriGrammar.port_decimal port ending semicolon _)),
    DiamuriGrammar.transport_protocol]
  rfl

theorem diamuri_aaas {uri : DiameterUri} {port : UInt16} (assigned : uri.port = some port) (aaas : uri.scheme = .aaas)
    {text : Octets} (printed : uri.print = .returned text) : spirit.diamuri text = none := by
  rw [print_eq assigned, aaas] at printed
  cases printed
  unfold spirit Rule.full DiamuriGrammar.diameterUri
  dsimp only
  rw [UriScheme.text, Rule.andThen_match (Rule.act_match rfl), Rule.andThen_fail rfl]

def UriRoundTrips (groups : List DiameterGroupedAvp) (avp : DictionaryEntry) (uri : DiameterUri) : Prop :=
  ∃ text, writeDiamUri uri = .returned text ∧
    parseAvpValue ⟨groups, spirit⟩ avp (payloadBlock text 0) = .returned (.diamUri uri)

theorem print_ascii {uri : DiameterUri} {port : UInt16} (assigned : uri.port = some port) (host : IsAscii uri.fqdn)
    {text : Octets} (printed : uri.print = .returned text) : IsAscii text := by
  rw [print_eq assigned] at printed
  cases printed
  have scheme : IsAscii uri.scheme.text := by cases uri.scheme <;> exact isAscii_of_all rfl
  have transport : IsAscii uri.transport.text := by cases uri.transport <;> exact isAscii_of_all rfl
  have protocol : IsAscii uri.protocol.text := by cases uri.protocol <;> exact isAscii_of_all rfl
  have number := isAscii_of_digits (decimal_digits port.toNat)
  have first : IsAscii (ascii ";transport=") := isAscii_of_all rfl
  have second : IsAscii (ascii ";protocol=") := isAscii_of_all rfl
  have colon : IsAscii [58] := isAscii_of_all rfl
  exact scheme.append (host.append (colon.append (number.append (first.append (transport.append (second.append protocol))))))

/-- A URI with a host name that the grammar accepts, a port, TCP or SCTP, and Diameter or
RADIUS is read back exactly when it has the scheme `aaa`, TCP and Diameter, and no blank
stands at either end of the host name. -/
theorem diamUri_roundTrips_iff (groups : List DiameterGroupedAvp) {avp : DictionaryEntry} (typed : avp.avpType = .diamUri)
    {uri : DiameterUri} (host : FqdnAccepted uri.fqdn) {port : UInt16} (assigned : uri.port = some port)
    (transport : uri.transport ≠ .udp) (protocol : uri.protocol ≠ .tacacsPlus) :
    UriRoundTrips groups avp uri ↔
      uri.scheme = .aaa ∧ uri.transport = .tcp ∧ uri.protocol = .diameter ∧ Trimmed uri.fqdn := by
  obtain ⟨used, b, rest, parts, solid, ending, plain, read⟩ := fqdn_parse host
  have printed := print_eq assigned
  have plainText := print_ascii assigned plain printed
  have written : writeDiamUri uri = uri.print := by rw [writeDiamUri, printed, Outcome.returned_bind, writeUtf8_ascii plainText]
  have decoded {text : Octets} {read : DiameterUri} (printed : uri.print = .returned text)
      (accepted : spirit.diamuri text = some read) :
      parseAvpValue ⟨groups, spirit⟩ avp (payloadBlock text 0) = .returned (.diamUri read) := by
    rw [parseAvpValue, parseValue, typed]
    dsimp only
    rw [readUtf8_ascii _ _ (print_ascii assigned plain printed), Outcome.returned_bind, accepted]
    rfl
  have refused {text : Octets} (printed : uri.print = .returned text) (rejected : spirit.diamuri text = none) :
      parseAvpValue ⟨groups, spirit⟩ avp (payloadBlock text 0) = raiseWith groups (.normal .invalidAvpValue) avp := by
    rw [parseAvpValue, parseValue, typed]
    dsimp only
    rw [readUtf8_ascii _ _ (print_ascii assigned plain printed), Outcome.returned_bind, rejected]
  have trimmed := trimmed_iff parts solid ending
  constructor
  · rintro ⟨text, sent, received⟩
    rw [written] at sent
    cases scheme : uri.scheme with
    | aaas =>
      rw [refused sent (diamuri_aaas assigned scheme sent)] at received
      exact absurd received raiseWith_ne_returned
    | aaa =>
      rw [decoded sent (diamuri_print assigned scheme ending read sent)] at received
      simp only [Outcome.returned.injEq, AvpContainerEntry.diamUri.injEq] at received
      have diameter : uri.protocol = .diameter := (congrArg DiameterUri.protocol received).symm
      have tcp := (congrArg DiameterUri.transport received).symm
      dsimp only at tcp
      rw [if_pos diameter] at tcp
      exact ⟨rfl, tcp, diameter, trimmed.mpr (congrArg DiameterUri.fqdn received)⟩
  · rintro ⟨scheme, tcp, diameter, ends⟩
    refine ⟨_, written.trans printed, ?_⟩
    rw [decoded printed (diamuri_print assigned scheme ending read printed), trimmed.mp ends, if_pos diameter, ← tcp,
      ← diameter, ← scheme, ← assigned]

def redirectHostEntry : DictionaryEntry := ⟨"Redirect-Host", 292, .diamUri, 0, flagMandatory, mandatory_unvendored, by decide⟩

def plainUri (transport : UriTransport) (protocol : UriProtocol) (scheme : UriScheme) : DiameterUri :=
  { fqdn := ascii "a", port := some 3868, transport := transport, protocol := protocol, scheme := scheme }

theorem diamUri_roundTrips_iff_plain :
    UriRoundTrips [] redirectHostEntry (plainUri .tcp .diameter .aaa) ↔
      (plainUri .tcp .diameter .aaa).scheme = .aaa ∧ (plainUri .tcp .diameter .aaa).transport = .tcp ∧
        (plainUri .tcp .diameter .aaa).protocol = .diameter ∧ Trimmed (plainUri .tcp .diameter .aaa).fqdn :=
  diamUri_roundTrips_iff [] rfl (by decide +kernel) rfl (by decide) (by decide)

/-- With SCTP the value comes back with TCP; with the scheme `aaas` the text is refused. -/
theorem sctp_and_aaas_lost :
    FqdnAccepted (ascii "a") ∧
      (writeDiamUri (plainUri .sctp .diameter .aaa) = .returned (ascii "aaa://a:3868;transport=sctp;protocol=diameter") ∧
        spirit.diamuri (ascii "aaa://a:3868;transport=sctp;protocol=diameter") = some (plainUri .tcp .diameter .aaa) ∧
        ¬ UriRoundTrips [] redirectHostEntry (plainUri .sctp .diameter .aaa)) ∧
      (writeDiamUri (plainUri .tcp .diameter .aaas) = .returned (ascii "aaas://a:3868;transport=tcp;protocol=diameter") ∧
        spirit.diamuri (ascii "aaas://a:3868;transport=tcp;protocol=diameter") = none ∧
        ¬ UriRoundTrips [] redirectHostEntry (plainUri .tcp .diameter .aaas)) := by
  have host : FqdnAccepted (ascii "a") := by decide +kernel
  refine ⟨host, ⟨by decide +kernel, by decide +kernel, fun same => ?_⟩, by decide +kernel, by decide +kernel, fun same => ?_⟩
  · have kept := (diamUri_roundTrips_iff [] rfl host rfl (by decide) (by decide)).mp same
    cases kept.2.1
  · have kept := (diamUri_roundTrips_iff [] rfl host rfl (by decide) (by decide)).mp same
    cases kept.1

end RoundTrip

end OpenDiameter.Parser
