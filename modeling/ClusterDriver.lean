import ClusterDriver.Main
import ClusterDriver.Scenario.Cells
import ClusterDriver.Scenario.Contexts
import ClusterDriver.Scenario.Detector
import ClusterDriver.Proofs.GrowingLists
import ClusterDriver.Proofs.Registry.CyclicGraphs
import ClusterDriver.Proofs.Registry.PlainEvaluation
import ClusterDriver.Proofs.Cluster.Operations
import ClusterDriver.Proofs.Cluster.Replay
import ClusterDriver.Proofs.Cluster.Members
import ClusterDriver.Proofs.Cluster.JobCompletion
import ClusterDriver.Proofs.Context.Closing
import ClusterDriver.Proofs.Registry.Service
import ClusterDriver.Proofs.Registry.BuilderEndings
import ClusterDriver.Proofs.Registry.WriteOnce
import ClusterDriver.Proofs.Cluster.NodeStates
import ClusterDriver.Proofs.Registry.Bookkeeping
import ClusterDriver.Proofs.Registry.SingleThread
import ClusterDriver.Proofs.Registry.Origins
import ClusterDriver.Proofs.Cluster.FullRefresh
import ClusterDriver.Proofs.Registry.CycleChains
import ClusterDriver.Proofs.Context.InitAll
import ClusterDriver.Proofs.Cluster.JobReports
import ClusterDriver.Proofs.Cluster.Descriptors
import ClusterDriver.Proofs.Cluster.QueryPlans
import ClusterDriver.Proofs.Registry.Solo
import ClusterDriver.Proofs.Cluster.IdleManager
import ClusterDriver.Proofs.Context.Construction
import ClusterDriver.Proofs.Cluster.Seeding
import ClusterDriver.Proofs.Cluster.StartingPoints
import ClusterDriver.Proofs.Context.Startup
import ClusterDriver.Proofs.Text.Numerals
import ClusterDriver.Proofs.Text.Splitting
import ClusterDriver.Proofs.Cluster.VersionTexts
import ClusterDriver.Proofs.Settings.DurationTexts
import ClusterDriver.Proofs.Cluster.EventDelivery
import ClusterDriver.Proofs.Net.Ipv4Texts
import ClusterDriver.Proofs.Net.Ipv6Texts
import ClusterDriver.Proofs.Net.AddressGrammar
import ClusterDriver.Proofs.Net.AddressPrinting
import ClusterDriver.Proofs.Cluster.ContactPointEntries
import ClusterDriver.Proofs.Settings.ListTexts
import ClusterDriver.Proofs.Registry.WaitWalks
import ClusterDriver.Proofs.Cluster.Gauges
import ClusterDriver.Proofs.Settings.Getters
import ClusterDriver.Proofs.Settings.Overrides
