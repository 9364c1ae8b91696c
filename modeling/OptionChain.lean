import OptionChain.Runs
import OptionChain.Tasks
import OptionChain.FirstCrossing
import OptionChain.Buckets
import OptionChain.PeakStops
import OptionChain.Rounding
import OptionChain.TrapScanner
import OptionChain.TrapZones
import OptionChain.TrapLife
import OptionChain.TrapOrder
import OptionChain.TrapDuality
import OptionChain.Broker
import OptionChain.SmartExecutor
import OptionChain.ExecutorBooking
import OptionChain.StraddleBridge
import OptionChain.EntryAtomicity
import OptionChain.StraddleBook
import OptionChain.PoolIndicators
import OptionChain.BookIsolation
import OptionChain.OrderStream
import OptionChain.TrapEntry
import OptionChain.SingleEntry
import OptionChain.TrapExit
import OptionChain.ExitConservation
import OptionChain.PoolResampling
import OptionChain.IronCondor
import OptionChain.CondorTick
import OptionChain.CondorBridge
import OptionChain.CondorPnl
import OptionChain.CondorEffects
import OptionChain.CondorStore
import OptionChain.CondorOrders
import OptionChain.CondorTasks
import OptionChain.CondorExclusive
import OptionChain.CondorPosition
import OptionChain.Timestamps
import OptionChain.TrapTrail
import OptionChain.TrailSafety
import OptionChain.TrapStops
import OptionChain.StopTightening
import OptionChain.StraddleExits
import OptionChain.StraddleStore
import OptionChain.SessionRestart
import OptionChain.SnapshotDecisions
import OptionChain.RiskLedger
import OptionChain.ClientProfiles
import OptionChain.RiskGate
import OptionChain.StrikeRebalancer
import OptionChain.FeederAgreement
import OptionChain.PinnedRebalance
import OptionChain.Meters
import OptionChain.RateLimiter
import OptionChain.KeyedLoops
import OptionChain.BookManagers
import OptionChain.BookReconciliation
import OptionChain.StraddleRouting
import OptionChain.CivilDates
import OptionChain.FrontContracts
import OptionChain.ContractSymbols
import OptionChain.ContractExpiry
import OptionChain.ExitReport
import OptionChain.AbortRestores
import OptionChain.DeltaBroker
import OptionChain.ExecutorSizing
import OptionChain.DeltaExecution
import OptionChain.BrokerAdapters
import OptionChain.StraddleRuns
import OptionChain.GuardrailLatch
import OptionChain.SquareoffFlat
import OptionChain.NoopRolls
import OptionChain.BookMoves
import OptionChain.OrderDesk
import OptionChain.TradeCap
import OptionChain.FillCredit
import OptionChain.HistoryAgreement
import OptionChain.DisabledExits
import OptionChain.ExpiryMixing
import OptionChain.TrapLadder
import OptionChain.Patterns
import OptionChain.FyersSymbols
import OptionChain.SymbolCodec
import OptionChain.TokenResolution
import OptionChain.Remembered
import OptionChain.FeedSubscriptions
import OptionChain.FeedSupervision
import OptionChain.Segments
import OptionChain.CandleCache
import OptionChain.SharedFeedCodec
import OptionChain.SharedFeedSubscriptions
import OptionChain.DeltaChain
import OptionChain.ChainAgreement
import OptionChain.DeltaFeed
import OptionChain.EndlessRuns
import OptionChain.FeedLifetime
import OptionChain.CryptoRestart
import OptionChain.Deployments
import OptionChain.RunningDeployments
import OptionChain.TrapBooks
import OptionChain.TrapWiring
import OptionChain.Globs
import OptionChain.JoinedKeys
import OptionChain.PersistentKeys
import OptionChain.LossHalts
import OptionChain.MergedTrees
import OptionChain.RuntimeConfig
import OptionChain.EffectiveConfig
import OptionChain.PositionRouting
import OptionChain.CondorFills
import OptionChain.TrapSignals
import OptionChain.FuturesStops
import OptionChain.TrapPnl
import OptionChain.BoundedDeques
import OptionChain.PoolSeeding
import OptionChain.AlignedTails
import OptionChain.MinuteAlignment
import OptionChain.BracketedFormulas
import OptionChain.RuleEvaluation
import OptionChain.StraddleSelection
import OptionChain.EntryRatio
import OptionChain.Ratchets
import OptionChain.StaircaseStops
import OptionChain.RollTrackers
import OptionChain.TrapRestart
import OptionChain.T1Stops
import OptionChain.SessionClose
import OptionChain.CircuitBreaker
import OptionChain.DeltaRequests
import OptionChain.UnstampedExits
import OptionChain.BadTicks
import OptionChain.TickBuckets
import OptionChain.SpotFilter
import OptionChain.HtfBoundaries
import OptionChain.WilderRsi
import OptionChain.WilderAdx
import OptionChain.StrikeCleanup
import OptionChain.ChaseLadder
import OptionChain.FeedDedup
import OptionChain.BalancedPair
import OptionChain.RollPartner
import OptionChain.FreshZones
import OptionChain.TrapBacktest
import OptionChain.SessionPriming
import OptionChain.KeyDecoding
import OptionChain.ResetTokens
import OptionChain.OwnedRows
import OptionChain.TrapTables
import OptionChain.OpenGroups
import OptionChain.FormingBars
import OptionChain.FilteredScans
import OptionChain.ClearedSessions
import OptionChain.SweepReentry
import OptionChain.Mailboxes
import OptionChain.PubSub
import OptionChain.ChainMatrix
import OptionChain.Means
import OptionChain.Indicators
import OptionChain.GapResets
import OptionChain.OrderFanout
import OptionChain.BacktestZones
import OptionChain.Base64
import OptionChain.KeyedTables
import OptionChain.CredentialStore
import OptionChain.BacktestExits
import OptionChain.TimedCaches
import OptionChain.TradeGates
import OptionChain.FrameQueue
import OptionChain.Accounts
import OptionChain.AccountSafety
import OptionChain.AngelSymbols
import OptionChain.OAuthCallbacks
