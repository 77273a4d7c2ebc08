import TaosAdapter.CommonPool.Registry
import TaosAdapter.Fetch.WaitCycle
import TaosAdapter.Reply.Buffers
import TaosAdapter.Session.Release
import TaosAdapter.Session.OutputQueue
import TaosAdapter.Holders.StmtResults
import TaosAdapter.ConnectPool.Ownership
import TaosAdapter.ConnectPool.Wakeup
import TaosAdapter.RawBlock.RoundTrip
import TaosAdapter.Stmt2.Safety
import TaosAdapter.Stmt2.Agreement
import TaosAdapter.RawBlock.Refusals
import TaosAdapter.Rest.HexTexts
import TaosAdapter.Rest.FetchErrors
import TaosAdapter.Rest.UploadStatements
import TaosAdapter.Rest.UploadTuples
import TaosAdapter.Rest.AuthTokens
import TaosAdapter.Csv.RoundTrip
import TaosAdapter.Opentsdb.Connection
import TaosAdapter.Prometheus.TableName
import TaosAdapter.Prometheus.Results
import TaosAdapter.Prometheus.Statement
import TaosAdapter.Statsd.UdpListen
import TaosAdapter.Statsd.Aggregate
import TaosAdapter.HandlerPool.Places
import TaosAdapter.Notify.Delivery
import TaosAdapter.Notify.Outstanding
import TaosAdapter.Notify.UseAfterClose
import TaosAdapter.Tmq.Worker
import TaosAdapter.Tmq.AutoCommit
import TaosAdapter.Tmq.Blocks
import TaosAdapter.Tmq.Ownership
import TaosAdapter.Tmq.Teardown
import TaosAdapter.Binary.RawBlockOffset
import TaosAdapter.Binary.RowBlockTypes
import TaosAdapter.Session.Messages
