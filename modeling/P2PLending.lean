import P2PLending.Foundation.Checked
import P2PLending.Foundation.CheckedLists
import P2PLending.Foundation.Words
import P2PLending.Foundation.Runs
import P2PLending.Foundation.Custody
import P2PLending.Foundation.Handler
import P2PLending.Foundation.Script
import P2PLending.Foundation.ScriptNumbers
import P2PLending.Foundation.Confined
import P2PLending.Contract.State
import P2PLending.Contract.Lending
import P2PLending.Contract.Effects
import P2PLending.Contract.Audit
import P2PLending.Contract.Token
import P2PLending.Contract.CollateralReturn
import P2PLending.Contract.Solvency
import P2PLending.Contract.StableClaims
import P2PLending.Contract.StableRatio
import P2PLending.Contract.LiquidationRule
import P2PLending.Contract.LoanSteps
import P2PLending.Contract.LoanBacking
import P2PLending.Contract.Repayment
import P2PLending.Contract.ClosingArithmetic
import P2PLending.Dlc.Transactions
import P2PLending.Dlc.RedeemScripts
import P2PLending.Dlc.Funding
import P2PLending.Dlc.Signing
import P2PLending.Dlc.FundValue
import P2PLending.Dlc.Loans
import P2PLending.Dlc.EscrowScript
import P2PLending.Dlc.CollateralScript
import P2PLending.Dlc.WitnessOrder
import P2PLending.Dlc.LoanValue
import P2PLending.Dlc.Combinations
import P2PLending.Dlc.AdaptorPoints
import P2PLending.Dlc.ChannelTransactions
import P2PLending.Manager.Contracts
import P2PLending.Manager.ContractDescriptors
import P2PLending.Manager.Closing
import P2PLending.Manager.ContractUpdater
import P2PLending.Manager.Handlers
import P2PLending.Manager.LoanFunding
import P2PLending.Manager.Acceptance
import P2PLending.Manager.LoanAcceptance
import P2PLending.Manager.StageAgreement
import P2PLending.Manager.LoanStore
import P2PLending.Manager.LoanOffer
import P2PLending.Manager.EscrowCheck
import P2PLending.Manager.LoanSecrets
import P2PLending.Manager.LoanStart
import P2PLending.Manager.SignedPlaces
import P2PLending.Manager.ContractSigning
import P2PLending.Manager.HonestSignatures
import P2PLending.Manager.AttestedOutcomes
import P2PLending.Manager.MultiEvent
import P2PLending.Manager.SelectedCets
import P2PLending.Manager.ContractMessages
import P2PLending.Channels.State
import P2PLending.Channels.Monitor
import P2PLending.Channels.Settling
import P2PLending.Channels.Renewal
import P2PLending.Channels.ChannelClosing
import P2PLending.Channels.Node
import P2PLending.Channels.ChannelHandlers
import P2PLending.Channels.ChannelChecks
import P2PLending.Channels.ChannelMoves
import P2PLending.Channels.ChannelFaults
import P2PLending.Channels.ChannelOutcomes
import P2PLending.Channels.ChannelRuns
import P2PLending.Channels.FundingWitnesses
import P2PLending.Manager.OfferReplay
import P2PLending.Channels.OfferRoles
import P2PLending.Channels.RevokedStates
import P2PLending.Channels.RenewalChecks
import P2PLending.Channels.ExpectedStates
import P2PLending.Channels.ClosingKept
import P2PLending.Channels.RenewedRefund
import P2PLending.Channels.RollBack
import P2PLending.Channels.ContractChecks
import P2PLending.Channels.ChannelHub
import P2PLending.Channels.TimedOut
import P2PLending.Channels.PeriodicCheck
import P2PLending.Channels.FaultIsolation
import P2PLending.Foundation.Codec
import P2PLending.Messages.Encoding
import P2PLending.Messages.OracleMsgs
import P2PLending.Messages.ContractMsgs
import P2PLending.Messages.Negotiation
import P2PLending.Messages.DlcMessages
import P2PLending.Messages.ChannelMessages
import P2PLending.Messages.Segmentation
import P2PLending.Messages.Message
import P2PLending.Messages.MessageHandler
import P2PLending.Manager.Confirmations
import P2PLending.Channels.ConfirmedDepths
import P2PLending.Manager.PayoutCurve
import P2PLending.Manager.OfferConversion
import P2PLending.Manager.OfferRoundTrip
import P2PLending.Manager.OfferChecks
import P2PLending.Manager.OwnOffers
import P2PLending.Foundation.Avoids
import P2PLending.Manager.CurveGuards
import P2PLending.Manager.OfferPanics
import P2PLending.Channels.SettledContracts
import P2PLending.Channels.SettledRuns
import P2PLending.Foundation.Reservations
import P2PLending.Foundation.LiveRecords
import P2PLending.Dlc.PartyFees
import P2PLending.Dlc.LoanOutputs
import P2PLending.Messages.Sending
import P2PLending.Manager.CoinSelection
import P2PLending.Manager.CurveCoverage
import P2PLending.Manager.ContractRecords
import P2PLending.Manager.WalletCoins
import P2PLending.Manager.Attestations
import P2PLending.Manager.EnumIndexing
import P2PLending.Manager.ConstantPieces
import P2PLending.Manager.SignatureLists
import P2PLending.Channels.MonitorStorage
import P2PLending.Channels.ChainWatch
import P2PLending.Channels.RenewalRecords
import P2PLending.Channels.ChannelOffers
import P2PLending.Channels.Treasury
import P2PLending.Channels.CoinReservations
import P2PLending.Foundation.ReadBack
import P2PLending.Messages.ExactEncodings
import P2PLending.Storage.Tries
import P2PLending.Storage.Offers
import P2PLending.Storage.Contracts
import P2PLending.Storage.ContractStore
import P2PLending.Foundation.KeyedWrites
import P2PLending.Foundation.Iterators
import P2PLending.Trie.DigitTrie
import P2PLending.Trie.DigitTrieIter
import P2PLending.Trie.DigitTrieMap
import P2PLending.Trie.Decomposition
import P2PLending.Trie.OutcomeCombinations
import P2PLending.Trie.MultiTrie
import P2PLending.Trie.MultiTrieEntries
import P2PLending.Trie.IndexedPaths
import P2PLending.Trie.MultiTrieIter
import P2PLending.Trie.OracleTries
import P2PLending.Trie.OracleTrieIters
import P2PLending.Trie.Generation
import P2PLending.Trie.SigningOrder
import P2PLending.Trie.MultiTrieLookUp
import P2PLending.Foundation.BinaryDigits
import P2PLending.Trie.ValueDigits
import P2PLending.Trie.OutcomeCells
import P2PLending.Trie.CoveringCells
import P2PLending.Trie.DifferenceRequests
import P2PLending.Trie.WithinError
import P2PLending.Trie.WithinHonoured
import P2PLending.Trie.PastHonoured
import P2PLending.Trie.AllowedDifferences
import P2PLending.Trie.CombinationIterator
import P2PLending.Foundation.PlaceDigits
import P2PLending.Trie.DigitDecomposition
import P2PLending.Trie.GroupPartition
import P2PLending.Channels.SettleOutputs
import P2PLending.Channels.Reprocessing
import P2PLending.Trie.ArenaDigitTrie
import P2PLending.Trie.ArenaMultiTrie
import P2PLending.Trie.CombinationFaults
import P2PLending.Trie.ArenaInsert
import P2PLending.Trie.ArenaIteration
import P2PLending.Trie.FailedInsert
import P2PLending.Trie.ArenaStands
import P2PLending.Trie.ArenaRefines
import P2PLending.Trie.AgreementRoom
