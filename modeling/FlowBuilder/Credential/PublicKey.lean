import FlowBuilder.Text.Search

/-!
# Texts of public keys

How a text is known to be a certificate, or a key of a pair of which one half is public: by the line
that opens its armor, by the name of its kind, or by its being a certificate of the secure shell.
Such a text is open to everyone, or a half that signs in another way, so that no secret is made of
it.
-/

namespace FlowBuilder.PublicKey

/-- What may be kept in armor. -/
def armored : List String :=
  ["CERTIFICATE", "TRUSTED CERTIFICATE", "PRIVATE KEY", "PUBLIC KEY", "ENCRYPTED PRIVATE KEY",
    "OPENSSH PRIVATE KEY", "DSA PRIVATE KEY", "RSA PRIVATE KEY", "RSA PUBLIC KEY",
    "EC PRIVATE KEY", "DH PARAMETERS", "NEW CERTIFICATE REQUEST", "CERTIFICATE REQUEST",
    "SSH2 PUBLIC KEY", "SSH2 ENCRYPTED PRIVATE KEY", "X509 CRL"]

/-- The lines that open armor. A space may stand for the dash next to the words. -/
def armorLines : List String :=
  ["-----BEGIN ", "---- BEGIN "].flatMap fun opening =>
    armored.flatMap fun content => ["-----", " ----"].map fun closing =>
      opening ++ content ++ closing

/-- The names of the kinds of shell keys. -/
def shellKinds : List String :=
  ["ssh-ed25519", "ssh-rsa", "ssh-dss", "ecdsa-sha2-nistp256", "ecdsa-sha2-nistp384",
    "ecdsa-sha2-nistp521"]

/-- How the name of a kind of shell certificates ends. -/
def certificateMark : String := "-cert-v01@openssh.com"

/-- ASCII white space. -/
def isSeparator (c : Char) : Bool :=
  c = ' ' || ('\t' ≤ c && c ≤ '\r')

/-- Whether a text is a certificate of the secure shell: its first word names a kind of them, and
another word follows on the line. -/
def isShellCertificate (cs : List Char) : Bool :=
  let kind := cs.takeWhile (!isSeparator ·)
  let rest := cs.dropWhile (!isSeparator ·)
  let next := rest.dropWhile fun c => c = ' ' || c = '\t'
  certificateMark.toList.isSuffixOf kind && next.length < rest.length &&
    next.head?.any (!isSeparator ·)

/-- Whether a text states a public key, a private one of a pair, or a certificate. -/
def isStatedBy (cs : List Char) : Bool :=
  (armorLines ++ shellKinds).any (fun mark => Text.holds mark.toList cs) || isShellCertificate cs

end FlowBuilder.PublicKey
