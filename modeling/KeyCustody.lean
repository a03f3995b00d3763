import KeyCustody.EncryptionKey
import KeyCustody.SigningKey
import KeyCustody.ServiceDouble
import KeyCustody.Http
import KeyCustody.Proofs.Crc32cBurst
import KeyCustody.Proofs.Acceptance
import KeyCustody.Proofs.HttpAcceptance
import KeyCustody.Proofs.TransitFault
import KeyCustody.Proofs.WireRoundTrip
import KeyCustody.Proofs.LinkEquivalence
import KeyCustody.Proofs.DoubleRoundTrip
import KeyCustody.Proofs.SigningAcceptance
import KeyCustody.Proofs.SigningRequests
import KeyCustody.Proofs.HttpRequests
import KeyCustody.Proofs.VersionNames
import KeyCustody.Proofs.PercentOctets
import KeyCustody.Proofs.SigningDescriptor
import KeyCustody.Proofs.AuthorityText
import KeyCustody.Proofs.PathWalk
import KeyCustody.Proofs.RequestAddress
import KeyCustody.Proofs.StrippedNames
import KeyCustody.Proofs.IntegerFields
import KeyCustody.Proofs.BlobSpelling
import KeyCustody.Proofs.MessageForms
import KeyCustody.Proofs.StrictEncryption
import KeyCustody.Proofs.GuardedDecryption
import KeyCustody.Proofs.KeyLookup
import KeyCustody.Proofs.KeyConstruction
import KeyCustody.Proofs.ConfigLoading
