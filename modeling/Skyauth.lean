import Skyauth.Proofs.RefreshProofs
import Skyauth.Proofs.SingleFlightProofs
import Skyauth.Proofs.TransitionModelProofs
import Skyauth.Proofs.AnswerProofs
import Skyauth.Proofs.RoundTripProofs
import Skyauth.Proofs.TowerProofs
import Skyauth.Proofs.AdmissionProofs
import Skyauth.Proofs.LoginProofs
import Skyauth.Proofs.SessionProofs
import Skyauth.Proofs.NonceProofs
import Skyauth.Proofs.CapacityProofs
import Skyauth.Proofs.ValidatorProofs
import Skyauth.Proofs.SsrfLiteralProofs
import Skyauth.Proofs.HandleProofs
import Skyauth.Proofs.ServiceAuthProofs
import Skyauth.Proofs.TokenRegistryProofs
import Skyauth.Proofs.DidSyntaxProofs
import Skyauth.Proofs.SessionJsonProofs
import Skyauth.Proofs.MultikeyProofs
import Skyauth.Proofs.ExpectationProofs
import Skyauth.Proofs.NonceRetryProofs
import Skyauth.Proofs.RetrySystemProofs
import Skyauth.Proofs.WwwAuthenticateProofs
import Skyauth.Proofs.SealedProofs
import Skyauth.Proofs.HtuProofs
import Skyauth.Proofs.ThumbprintProofs
import Skyauth.Proofs.XrpcProofs
import Skyauth.Proofs.IpFilterProofs
import Skyauth.Proofs.Base58Proofs
import Skyauth.Proofs.PkceProofs
import Skyauth.Proofs.TowerSystemProofs
import Skyauth.Proofs.TowerNonceProofs
import Skyauth.Proofs.DiscoveryProofs
import Skyauth.Proofs.FetchProofs
import Skyauth.Proofs.FormalModelsProofs
import Skyauth.Proofs.SpecProofs
import Skyauth.Proofs.FormProofs
import Skyauth.Proofs.IntegrationsProofs
import Skyauth.Proofs.ClientAuthProofs
import Skyauth.Proofs.ResourceServerProofs
import Skyauth.Proofs.DeliveryProofs
import Skyauth.Proofs.ReplayCapacityProofs
import Skyauth.Proofs.ServiceTasksProofs
